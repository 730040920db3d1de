import Mathlib.Logic.Relation
import VideoSurveillance.System.TwoCameras

namespace VideoSurveillance.TwoCameras
open Relation (ReflTransGen)

def Input : Event → Prop
  | .assignMovieMode _ _ => True
  | .detectMotion _ => True
  | _ => False

def Unforced (s t : State) : Prop := ∃ e, ¬ Input e ∧ step s e = some t

structure Heard (s : State) : Prop where
  booted : Booted s
  motions : pendingMotions s = 0

structure Shown (s : State) : Prop extends Heard s where
  clicks : ∀ j, pendingClick j s.client = 0

structure Requested (j : Camera) (s : State) : Prop extends Shown s where
  place : (s.link j).place = .waiting (s.client.mode j)

structure Obeyed (j : Camera) (s : State) : Prop extends Requested j s where
  commands : (s.link j).commands = []

theorem detection_unforced {s t : State} {e : Event} (he : ¬ Input e) :
    detection ⟨s,e,t⟩ = 0 := by
  cases e with
  | detectMotion k => exact absurd trivial he
  | _ => rfl

theorem click_unforced {s t : State} {e : Event} (he : ¬ Input e) (j : Camera) :
    click j ⟨s,e,t⟩ = 0 := by
  cases e with
  | assignMovieMode i movie => exact absurd trivial he
  | _ => rfl

theorem heard_step {s t : State} {e : Event} (h : Heard s) (he : ¬ Input e)
    (hs : step s e = some t) : Heard t ∧ announcement ⟨s,e,t⟩ = 0 := by
  have hpaid := announcements_paid h.booted hs
  rw [detection_unforced he,h.motions] at hpaid
  exact ⟨⟨booted_step h.booted hs,by omega⟩,by omega⟩

theorem shown_step {s t : State} {e : Event} (h : Shown s) (he : ¬ Input e)
    (hs : step s e = some t) : Shown t ∧ ∀ j, t.client.mode j = s.client.mode j := by
  obtain ⟨hheard,hquiet⟩ := heard_step h.toHeard he hs
  have hpaid := fun j => clientSwitches_paid j hs
  simp only [hquiet,click_unforced he,h.clicks] at hpaid
  refine ⟨⟨hheard,fun j => ?_⟩,fun j => ?_⟩
  · have hj := hpaid j
    omega
  · by_contra hne
    have hj := hpaid j
    rw [clientSwitch,if_neg hne] at hj
    omega

theorem requested_step {j : Camera} {s t : State} {e : Event} (h : Requested j s) (he : ¬ Input e)
    (hs : step s e = some t) : Requested j t ∧ commandWritten j ⟨s,e,t⟩ = 0 := by
  obtain ⟨hshown,hmode⟩ := shown_step h.toShown he hs
  have hpaid := commandsWritten_paid j hs
  have hsettled : pendingCommand j s.client (s.link j).place = 0 := by
    rw [h.place,pendingCommand,if_pos rfl]
  rw [hsettled,clientSwitch,if_pos (hmode j)] at hpaid
  have hnone : commandWritten j ⟨s,e,t⟩ = 0 := by omega
  refine ⟨⟨hshown,?_⟩,hnone⟩
  have hkeep : (t.link j).place = (s.link j).place := by
    cases stepped hs with
    | assignMovieMode | updateGui | unchanged => rfl
    | detectMotion k | deliverCommand k | emitFrame k => exact link_setLink_keeps Link.place s j rfl
    | @deliverFrame k newMode rest hframes =>
      rw [link_receiveMode]
      exact link_setLink_keeps Link.place s j rfl
    | enterNextMode k hplace =>
      rcases eq_or_ne j k with rfl | hjk
      · rw [h.place] at hplace
        cases hplace
      · rw [link_setLink_ne s hjk]
    | @changed k oldMode hplace hm =>
      rcases eq_or_ne j k with rfl | hjk
      · rw [h.place] at hplace
        cases hplace
        exact absurd rfl hm
      · rw [link_setLink_ne s hjk]
    | write k hplace =>
      rcases eq_or_ne j k with rfl | hjk
      · rw [h.place] at hplace
        cases hplace
      · rw [link_setLink_ne s hjk]
  rw [hkeep,h.place,hmode]

theorem obeyed_step {j : Camera} {s t : State} {e : Event} (h : Obeyed j s) (he : ¬ Input e)
    (hs : step s e = some t) :
    Obeyed j t ∧ (t.link j).server.mode = (s.link j).server.mode := by
  obtain ⟨hrequested,hnone⟩ := requested_step h.toRequested he hs
  have hpaid := commandsObeyed_paid j hs
  rw [h.commands,hnone,List.length_nil] at hpaid
  refine ⟨⟨hrequested,List.length_eq_zero_iff.mp (by omega)⟩,?_⟩
  by_contra hne
  have hserver := serverSwitches_paid j hs
  rw [serverSwitch,if_neg hne,detection_unforced he] at hserver
  omega

theorem heard_unforced {s t : State} (h : Heard s) (hst : ReflTransGen Unforced s t) : Heard t := by
  induction hst with
  | refl => exact h
  | tail _ hstep ih =>
    obtain ⟨e,he,hs⟩ := hstep
    exact (heard_step ih he hs).1

theorem shown_unforced {s t : State} (h : Shown s) (hst : ReflTransGen Unforced s t) :
    Shown t ∧ ∀ j, t.client.mode j = s.client.mode j := by
  induction hst with
  | refl => exact ⟨h,fun _ => rfl⟩
  | tail _ hstep ih =>
    obtain ⟨e,he,hs⟩ := hstep
    obtain ⟨hshown,hmode⟩ := shown_step ih.1 he hs
    exact ⟨hshown,fun j => (hmode j).trans (ih.2 j)⟩

theorem requested_unforced {j : Camera} {s t : State} (h : Requested j s)
    (hst : ReflTransGen Unforced s t) : Requested j t := by
  induction hst with
  | refl => exact h
  | tail _ hstep ih =>
    obtain ⟨e,he,hs⟩ := hstep
    exact (requested_step ih he hs).1

theorem obeyed_unforced {j : Camera} {s t : State} (h : Obeyed j s)
    (hst : ReflTransGen Unforced s t) :
    Obeyed j t ∧ (t.link j).server.mode = (s.link j).server.mode := by
  induction hst with
  | refl => exact ⟨h,rfl⟩
  | tail _ hstep ih =>
    obtain ⟨e,he,hs⟩ := hstep
    obtain ⟨hobeyed,hmode⟩ := obeyed_step ih.1 he hs
    exact ⟨hobeyed,hmode.trans ih.2⟩

theorem frames_deliverable (k : Camera) (s : State) : ∃ t, ReflTransGen Unforced s t ∧
    t.link k = { s.link k with
      frames := []
      motion := (s.link k).frames.foldl ServerReader.nextMotion (s.link k).motion } ∧
    t.link k.other = s.link k.other := by
  generalize hframes : (s.link k).frames = frames
  induction frames generalizing s with
  | nil =>
    refine ⟨s,.refl,?_,rfl⟩
    rw [List.foldl_nil,← hframes]
  | cons newMode rest ih =>
    have hk : k.other ≠ k := by cases k <;> decide
    have hstep : Unforced s (receiveMode k newMode rest s) := by
      refine ⟨.deliverFrame k,id,?_⟩
      simp only [step,hframes]
    have hlink : (receiveMode k newMode rest s).link k = (s.link k).receive newMode rest := by
      rw [link_receiveMode,link_setLink]
    have hother : (receiveMode k newMode rest s).link k.other = s.link k.other := by
      rw [link_receiveMode,link_setLink_ne s hk]
    obtain ⟨t,hst,ht,htother⟩ := ih (receiveMode k newMode rest s) (by rw [hlink]; rfl)
    refine ⟨t,.head hstep hst,?_,htother.trans hother⟩
    rw [ht,hlink]
    rfl

theorem pendingMotion_drained {l : Link} (h : ModeAgreement.Booted l.server) {motion : Bool}
    (hmotion : l.motion = ServerReader.nextMotion motion l.server.writer.headerMode)
    (hframes : l.frames = []) : pendingMotion l = 0 := by
  rw [pendingMotion,hframes,hmotion,List.nil_append,unseen]
  split_ifs with hbit
  · have hmode : l.server.mode = .movie := by
      rcases h.motionBit with hzero | ⟨-,hmovie⟩
      · rw [hzero] at hbit
        cases hbit
      · exact hmovie
    rw [ModeAgreement.headerMode_announced h hbit hmode]
    cases motion <;> rfl
  · rfl

theorem motions_heard (k : Camera) {s : State} (h : Booted s) : ∃ t, ReflTransGen Unforced s t ∧
    pendingMotion (t.link k) = 0 ∧ t.link k.other = s.link k.other := by
  have hk : k.other ≠ k := by cases k <;> decide
  let l := { s.link k with frames := (s.link k).frames ++ [(s.link k).server.writer.headerMode] }
  obtain ⟨t,hst,ht,hother⟩ := frames_deliverable k (s.setLink k l)
  rw [link_setLink] at ht
  refine ⟨t,.head ⟨.emitFrame k,id,rfl⟩ hst,?_,hother.trans (link_setLink_ne s hk _)⟩
  have hserver : (t.link k).server = (s.link k).server := by rw [ht]
  have hmotion : (t.link k).motion = ServerReader.nextMotion
      ((s.link k).frames.foldl ServerReader.nextMotion (s.link k).motion)
      (t.link k).server.writer.headerMode := by
    rw [hserver,ht]
    exact List.foldl_append
  exact pendingMotion_drained (hserver ▸ h.server k) hmotion (by rw [ht])

theorem booted_unforced {s t : State} (h : Booted s) (hst : ReflTransGen Unforced s t) :
    Booted t := by
  induction hst with
  | refl => exact h
  | tail _ hstep ih =>
    obtain ⟨e,-,hs⟩ := hstep
    exact booted_step ih hs

theorem reaches_heard {s : State} (h : Booted s) : ∃ t, ReflTransGen Unforced s t ∧ Heard t := by
  obtain ⟨t,hst,hone,-⟩ := motions_heard .one h
  have ht := booted_unforced h hst
  obtain ⟨u,htu,htwo,hother⟩ := motions_heard .two ht
  refine ⟨u,hst.trans htu,booted_unforced ht htu,?_⟩
  have hkept : u.link .one = t.link .one := hother
  rw [pendingMotions,hkept,hone,htwo]

theorem reaches_shown {s : State} (h : Heard s) : ∃ t, ReflTransGen Unforced s t ∧ Shown t := by
  have hone : Unforced s { s with client := s.client.notify (.camera .one) } :=
    ⟨.updateGui .one,id,rfl⟩
  have htwo : Unforced { s with client := s.client.notify (.camera .one) }
      { s with client := (s.client.notify (.camera .one)).notify (.camera .two) } :=
    ⟨.updateGui .two,id,rfl⟩
  have hst : ReflTransGen Unforced s
      { s with client := (s.client.notify (.camera .one)).notify (.camera .two) } :=
    .tail (.single hone) htwo
  refine ⟨_,hst,heard_unforced h hst,fun j => ?_⟩
  cases j with
  | one =>
    rw [pendingClick_of_view (Client.view_notify_ne (by decide) _)]
    exact pendingClick_updateGui .one _
  | two => exact pendingClick_updateGui .two _

theorem reaches_requested (j : Camera) {s : State} (h : Shown s) :
    ∃ t, ReflTransGen Unforced s t ∧ Requested j t := by
  have henter : ∀ s : State, Shown s → (s.link j).place = .outside →
      ∃ t, ReflTransGen Unforced s t ∧ Requested j t := by
    intro s h hplace
    have hstep : Unforced s (s.setLink j { s.link j with
        place := ServerWriter.nextModeLoop j s.client (s.client.mode j) }) := by
      refine ⟨.enterNextMode j,id,?_⟩
      simp only [step,hplace]
    refine ⟨_,.single hstep,(shown_unforced h (.single hstep)).1,?_⟩
    rw [link_setLink,ServerWriter.nextModeLoop,if_pos rfl]
    rfl
  have hwrite : ∀ s : State, Shown s → ∀ m, (s.link j).place = .writing m →
      ∃ t, ReflTransGen Unforced s t ∧ Requested j t := by
    intro s h m hplace
    have hstep : Unforced s (s.setLink j { s.link j with
        place := .outside
        commands := (s.link j).commands ++ [ServerWriter.modeByte m] }) := by
      refine ⟨.write j,id,?_⟩
      simp only [step,hplace]
    obtain ⟨t,hst,ht⟩ := henter _ (shown_unforced h (.single hstep)).1 (by rw [link_setLink])
    exact ⟨t,.head hstep hst,ht⟩
  cases hplace : (s.link j).place with
  | outside => exact henter s h hplace
  | writing m => exact hwrite s h m hplace
  | waiting oldMode =>
    rcases eq_or_ne (s.client.mode j) oldMode with hm | hm
    · exact ⟨s,.refl,h,by rw [hplace,hm]⟩
    · have hstep : Unforced s (s.setLink j { s.link j with place := .writing (s.client.mode j) }) := by
        refine ⟨.wake j,id,?_⟩
        simp only [step,hplace,ServerWriter.nextModeLoop,if_neg hm]
      obtain ⟨t,hst,ht⟩ := hwrite _ (shown_unforced h (.single hstep)).1 _ (by rw [link_setLink])
      exact ⟨t,.head hstep hst,ht⟩

theorem reaches_obeyed (j : Camera) {s : State} (h : Requested j s) :
    ∃ t, ReflTransGen Unforced s t ∧ Obeyed j t := by
  generalize hcommands : (s.link j).commands = commands
  induction commands generalizing s with
  | nil => exact ⟨s,.refl,h,hcommands⟩
  | cons command rest ih =>
    have hstep : Unforced s (s.setLink j { s.link j with
        server := ModeAgreement.streamListener command (s.link j).server
        commands := rest }) := by
      refine ⟨.deliverCommand j,id,?_⟩
      simp only [step,hcommands]
    obtain ⟨t,hst,ht⟩ := ih (requested_unforced h (.single hstep)) (by rw [link_setLink])
    exact ⟨t,.head hstep hst,ht⟩

def Still (s : State) : Prop := ∀ j, unsettled j s = 0 ∧ (s.link j).place ≠ .outside

theorem still_iff {s : State} (h : Booted s) : Still s ↔ ∀ j, Obeyed j s := by
  constructor
  · intro hstill
    have hmotions : pendingMotions s = 0 := by
      have hone := (hstill .one).1
      rw [unsettled] at hone
      omega
    have hclicks : ∀ j, pendingClick j s.client = 0 := by
      intro j
      have hj := (hstill j).1
      rw [unsettled] at hj
      omega
    intro j
    obtain ⟨hj,hplace⟩ := hstill j
    rw [unsettled] at hj
    refine ⟨⟨⟨⟨h,hmotions⟩,hclicks⟩,?_⟩,List.length_eq_zero_iff.mp (by omega)⟩
    cases hp : (s.link j).place with
    | outside => exact absurd hp hplace
    | writing m =>
      rw [hp,pendingCommand] at hj
      omega
    | waiting oldMode =>
      rw [hp,pendingCommand] at hj
      by_cases hm : s.client.mode j = oldMode
      · rw [hm]
      · rw [if_neg hm] at hj
        omega
  · intro hobeyed j
    have hj := hobeyed j
    have hplace : (s.link j).place ≠ .outside := by
      intro hout
      cases hj.place.symm.trans hout
    refine ⟨?_,hplace⟩
    rw [unsettled,hj.motions,hj.clicks,hj.place,hj.commands,pendingCommand,if_pos rfl]
    rfl

theorem modes_settle (events : List Event) (s : State) (hrun : system.run events = some s) :
    (∃ t, ReflTransGen Unforced s t ∧ Still t) ∧
    (Still s → ∀ t, ReflTransGen Unforced s t → Still t ∧
      ∀ j, t.client.mode j = s.client.mode j ∧
        (t.link j).server.mode = (s.link j).server.mode) := by
  have hbooted := booted_run hrun
  constructor
  · obtain ⟨t₁,h₁,ht₁⟩ := reaches_heard hbooted
    obtain ⟨t₂,h₂,ht₂⟩ := reaches_shown ht₁
    obtain ⟨t₃,h₃,ht₃⟩ := reaches_requested .one ht₂
    obtain ⟨t₄,h₄,ht₄⟩ := reaches_obeyed .one ht₃
    obtain ⟨t₅,h₅,ht₅⟩ := reaches_requested .two ht₄.toShown
    obtain ⟨t₆,h₆,ht₆⟩ := reaches_obeyed .two ht₅
    have hst := ((((h₁.trans h₂).trans h₃).trans h₄).trans h₅).trans h₆
    refine ⟨t₆,hst,(still_iff ht₆.booted).mpr (fun j => ?_)⟩
    cases j with
    | one => exact (obeyed_unforced ht₄ (h₅.trans h₆)).1
    | two => exact ht₆
  · intro hstill t hst
    have hobeyed := (still_iff hbooted).mp hstill
    refine ⟨(still_iff (booted_unforced hbooted hst)).mpr
      (fun j => (obeyed_unforced (hobeyed j) hst).1),fun j => ?_⟩
    exact ⟨(shown_unforced (hobeyed j).toShown hst).2 j,(obeyed_unforced (hobeyed j) hst).2⟩

def bothWaiting : State :=
  ⟨.start,⟨{ connected with place := .waiting .idle },{ connected with place := .waiting .idle }⟩⟩

theorem modes_settle_motionSeenByOne :
    (∃ s, system.run motionSeenByOne = some s ∧ ¬ Still s ∧
      ∃ t, ReflTransGen Unforced s t ∧ Still t) ∧
    system.run (motionSeenByOne.take 2) = some bothWaiting ∧ Still bothWaiting ∧
      ∀ t, ReflTransGen Unforced bothWaiting t → t.client.mode .two = .idle := by
  have hstill : Still bothWaiting := by
    intro j
    cases j <;> decide
  refine ⟨⟨_,rfl,fun h => ?_,(modes_settle motionSeenByOne _ rfl).1⟩,rfl,hstill,fun t hst => ?_⟩
  · exact absurd (h .two).1 (by decide)
  · exact (((modes_settle (motionSeenByOne.take 2) bothWaiting rfl).2 hstill t hst).2 .two).1

end VideoSurveillance.TwoCameras
