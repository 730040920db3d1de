import VideoSurveillance.Library.Latch
import VideoSurveillance.Library.Transitions
import VideoSurveillance.System.ModeAgreement

namespace VideoSurveillance.ServerReader

def ConsistentMode (newMode : UInt8) : Prop := newMode = 0 ∨ newMode = 1 ∨ newMode = 3

def announcesMotion (newMode : UInt8) : Bool := newMode = 3

def endsMotion (newMode : UInt8) : Bool := newMode = 0

def motionLatch : List UInt8 → Bool := Latch.held announcesMotion endsMotion

def sinceIdle (modes : List UInt8) : List UInt8 := Latch.sinceCleared endsMotion modes

theorem nextMotion_consistent {newMode : UInt8} (h : ConsistentMode newMode) (motion : Bool) :
    nextMotion motion newMode = Latch.next announcesMotion endsMotion motion newMode := by
  rcases h with rfl | rfl | rfl <;> cases motion <;> decide

theorem announces_consistent {newMode : UInt8} (h : ConsistentMode newMode) (motion : Bool) :
    announces motion newMode = (announcesMotion newMode && !motion) := by
  rcases h with rfl | rfl | rfl <;> cases motion <;> decide

inductive Received (s t : State) : Prop
  | inside : t.headers = s.headers → t.motion = s.motion → Received s t
  | header {newMode : UInt8} : t.headers = s.headers ++ [(newMode,announces s.motion newMode)] →
      t.motion = nextMotion s.motion newMode → Received s t

theorem received (s : State) (b : UInt8) : Received s (receive s b) := by
  cases hplace : s.place with
  | awaitStartFlag i =>
    simp only [receive,hplace]
    split_ifs
    · exact .inside rfl rfl
    · exact .inside rfl rfl
  | receiveHeader header =>
    simp only [receive,hplace]
    split_ifs
    · exact .header (parseHeader_headers _ s) (parseHeader_motion _ s)
    · exact .inside rfl rfl
  | receiveImage header image =>
    simp only [receive,hplace,storeByte]
    split_ifs
    · exact .inside rfl rfl
    · exact .inside rfl rfl
    · exact .inside rfl rfl
  | dead exception =>
    simp only [receive,hplace]
    exact .inside rfl rfl

def modes (s : State) : List UInt8 := s.headers.map Prod.fst

structure Detects (s : State) : Prop where
  motion : s.motion = motionLatch (modes s)
  headers : s.headers = Latch.log announcesMotion endsMotion false (modes s)

theorem detects_feed {bytes : List UInt8}
    (h : ∀ newMode ∈ modes (feed bytes start), ConsistentMode newMode) :
    Detects (feed bytes start) := by
  induction bytes using List.reverseRecOn with
  | nil => exact ⟨rfl,rfl⟩
  | append_singleton bytes b ih =>
    have hfeed : feed (bytes ++ [b]) start = receive (feed bytes start) b := feed_append bytes [b] _
    rw [hfeed] at h ⊢
    cases received (feed bytes start) b with
    | inside hheaders hmotion =>
      have hmodes : modes (receive (feed bytes start) b) = modes (feed bytes start) := by
        rw [modes,hheaders,← modes]
      rw [hmodes] at h
      obtain ⟨hheld,hlog⟩ := ih h
      exact ⟨by rw [hmotion,hmodes,hheld],by rw [hheaders,hmodes,← hlog]⟩
    | @header newMode hheaders hmotion =>
      have hmodes : modes (receive (feed bytes start) b) = modes (feed bytes start) ++ [newMode] := by
        rw [modes,hheaders,List.map_append,← modes]
        rfl
      rw [hmodes] at h
      obtain ⟨hbefore,hlast⟩ := List.forall_mem_append.mp h
      obtain ⟨hheld,hlog⟩ := ih hbefore
      have hconsistent := hlast newMode (List.mem_singleton_self _)
      constructor
      · rw [hmotion,hmodes,nextMotion_consistent hconsistent,hheld,motionLatch,Latch.held_concat]
      · rw [hheaders,hmodes,Latch.log_append,← hlog,announces_consistent hconsistent,hheld]
        rfl

theorem motionLatch_iff (modes : List UInt8) : motionLatch modes = true ↔ 3 ∈ sinceIdle modes := by
  have hapart : ∀ newMode, announcesMotion newMode = true → endsMotion newMode = false := by
    intro newMode h
    obtain rfl := of_decide_eq_true h
    decide
  rw [motionLatch,Latch.held_iff hapart]
  constructor
  · rintro ⟨newMode,hmem,h⟩
    obtain rfl := of_decide_eq_true h
    exact hmem
  · intro hmem
    exact ⟨3,hmem,by decide⟩

theorem called_iff {s : State} (h : Detects s) {before after : List (UInt8 × Bool)}
    {newMode : UInt8} {called : Bool} (hlog : s.headers = before ++ (newMode,called) :: after) :
    called = true ↔ newMode = 3 ∧ 3 ∉ sinceIdle (before.map Prod.fst) := by
  have hentry := Latch.log_entry (h.headers.symm.trans hlog)
  rw [hentry,Bool.and_eq_true,Bool.not_eq_true',← Bool.not_eq_true]
  exact and_congr decide_eq_true_iff (not_congr (motionLatch_iff _))

theorem called_once {s : State} (h : Detects s) {episode : List (UInt8 × Bool)}
    (hwithin : episode <:+: s.headers) (hmotion : ∀ x ∈ episode, x.1 ≠ 0) :
    episode.countP (fun x => x.2) ≤ 1 := by
  rw [h.headers] at hwithin
  exact Latch.edges_infix_le_one hwithin (fun x hx => decide_eq_false (hmotion x hx))

def discardedHeader (newMode : UInt8) : List UInt8 :=
  0x80 :: List.replicate 11 0 ++ [newMode]

def discardedFrame (newMode : UInt8) : List UInt8 := START_FLAG ++ (discardedHeader newMode ++ [])

theorem feed_discardedFrame (newMode : UInt8) (s : State) (hs : s.place = .awaitStartFlag 0) :
    feed (discardedFrame newMode) s =
      finish (headerOf (discardedHeader newMode)) none (handleMode newMode s) := by
  have hnegative : (headerOf (discardedHeader newMode)).timestamp < 0 :=
    (timestampOf_negative _).mpr (UInt8.le_refl 0x80)
  have hmode : (headerOf (discardedHeader newMode)).newMode = newMode := rfl
  have hdiscarded := parseHeader_discarded s (.inl hnegative)
  rw [hmode] at hdiscarded
  rw [discardedFrame,feed_flag s hs,feed_full_header s rfl,hdiscarded]
  rfl

theorem every_sequence_received (newModes : List UInt8) :
    ∃ bytes, modes (feed bytes start) = newModes := by
  suffices h : ∃ bytes, modes (feed bytes start) = newModes ∧
      (feed bytes start).place = .awaitStartFlag 0 by
    obtain ⟨bytes,hmodes,-⟩ := h
    exact ⟨bytes,hmodes⟩
  induction newModes using List.reverseRecOn with
  | nil => exact ⟨[],rfl,rfl⟩
  | append_singleton newModes newMode ih =>
    obtain ⟨bytes,hmodes,hplace⟩ := ih
    refine ⟨bytes ++ discardedFrame newMode,?_,?_⟩
    · rw [feed_append,feed_discardedFrame newMode _ hplace,← hmodes]
      exact List.map_append
    · rw [feed_append,feed_discardedFrame newMode _ hplace]
      rfl

end VideoSurveillance.ServerReader

namespace VideoSurveillance.ModeAgreement
open ServerReader (ConsistentMode)

structure Consistent (s : State) : Prop where
  booted : Booted s.server
  frames : ∀ newMode ∈ s.frames, ConsistentMode newMode

theorem receiveMode_silent (k : Camera) {newMode : UInt8} {s : State}
    (h : ServerReader.announces s.motion newMode = false) :
    receiveMode k newMode s = { s with motion := ServerReader.nextMotion s.motion newMode } := by
  simp only [receiveMode,h]
  rfl

theorem receiveMode_same (k : Camera) (newMode : UInt8) (s : State) :
    (receiveMode k newMode s).server = s.server ∧ (receiveMode k newMode s).frames = s.frames ∧
      (receiveMode k newMode s).motion = ServerReader.nextMotion s.motion newMode := by
  simp only [receiveMode]
  split_ifs <;> exact ⟨rfl,rfl,rfl⟩

theorem consistent_step {k : Camera} {s t : State} {e : Event} (h : Consistent s)
    (hstep : step k s e = some t) : Consistent t := by
  cases stepped hstep with
  | click j movie => exact ⟨h.booted,h.frames⟩
  | detectMotion => exact ⟨(booted_setMode h.booted .movie 1).1,h.frames⟩
  | @deliverCommand command rest hcommands =>
    exact ⟨booted_streamListener h.booted command,h.frames⟩
  | emitFrame => exact ⟨h.booted,frames_emitted h.booted h.frames⟩
  | @deliverFrame newMode rest hframes =>
    obtain ⟨hserver,hrest,-⟩ := receiveMode_same k newMode { s with frames := rest }
    refine ⟨by rw [hserver]; exact h.booted,fun b hb => h.frames b ?_⟩
    rw [hrest] at hb
    exact hframes ▸ List.mem_cons_of_mem newMode hb

theorem consistent_run {k : Camera} {events : List Event} {s : State}
    (hrun : (system k).run events = some s) : Consistent s :=
  (system k).invariant (I := Consistent) ⟨⟨rfl,rfl,.inl rfl⟩,fun _ h => by cases h⟩
    (fun _ _ _ => consistent_step) hrun

def EndsEpisode (x : Runs.Transition State Event) : Prop :=
  x.event = .deliverFrame ∧ x.source.frames.head? = some 0

def Overrides (k : Camera) (x : Runs.Transition State Event) : Prop :=
  x.event = .deliverFrame ∧ x.source.client.mode k = .idle ∧ x.target.client.mode k = .movie

instance (k : Camera) (x : Runs.Transition State Event) : Decidable (Overrides k x) :=
  inferInstanceAs (Decidable (_ ∧ _ ∧ _))

theorem motion_step {k : Camera} {s t : State} {e : Event} (h : Consistent s)
    (hstep : step k s e = some t) (hepisode : ¬ EndsEpisode ⟨s,e,t⟩) :
    t.motion = s.motion ∧ ¬ Overrides k ⟨s,e,t⟩ ∨ s.motion = false ∧ t.motion = true := by
  cases stepped hstep with
  | click | detectMotion | deliverCommand | emitFrame => exact .inl ⟨rfl,fun h => by cases h.1⟩
  | @deliverFrame newMode rest hframes =>
    have hconsistent := h.frames newMode (by simp [hframes])
    obtain ⟨-,-,hmotion⟩ := receiveMode_same k newMode { s with frames := rest }
    have hsilent : ServerReader.announces s.motion newMode = false →
        ServerReader.nextMotion s.motion newMode = s.motion →
        (receiveMode k newMode { s with frames := rest }).motion = s.motion ∧
          ¬ Overrides k ⟨s,.deliverFrame,receiveMode k newMode { s with frames := rest }⟩ := by
      intro hannounces hnext
      refine ⟨hmotion.trans hnext,?_⟩
      rintro ⟨-,hidle,hmovie⟩
      change (receiveMode k newMode { s with frames := rest }).client.mode k = .movie at hmovie
      rw [receiveMode_silent k (s := { s with frames := rest }) hannounces] at hmovie
      cases hidle.symm.trans hmovie
    rcases hconsistent with rfl | rfl | rfl
    · exact absurd ⟨rfl,by rw [hframes]; rfl⟩ hepisode
    · exact .inl (hsilent (by cases s.motion <;> rfl) (by cases s.motion <;> rfl))
    · cases hheld : s.motion with
      | true =>
        rw [hheld] at hsilent
        exact .inl (hsilent rfl rfl)
      | false =>
        rw [hheld] at hmotion
        exact .inr ⟨rfl,hmotion⟩

theorem overridden_once {k : Camera} {later : List Event} {s : State} (h : Consistent s)
    (hepisode : ∀ x ∈ (system k).transitions s later, ¬ EndsEpisode x) :
    ((system k).transitions s later).countP (fun x => Overrides k x) ≤
      if s.motion then 0 else 1 := by
  induction later generalizing s with
  | nil => exact Nat.zero_le _
  | cons e later ih =>
    cases hstep : (system k).step s e with
    | none =>
      rw [(system k).transitions_refused hstep]
      exact Nat.zero_le _
    | some t =>
      rw [(system k).transitions_cons hstep] at hepisode ⊢
      obtain ⟨hnow,hrest⟩ := List.forall_mem_cons.mp hepisode
      have hlater := ih (consistent_step h hstep) hrest
      rw [List.countP_cons]
      rcases motion_step h hstep hnow with ⟨hsame,hkept⟩ | ⟨hoff,hon⟩
      · rw [hsame] at hlater
        rw [if_neg (by simpa using hkept)]
        exact hlater
      · rw [hon,if_pos rfl] at hlater
        simp only [hoff,Bool.false_eq_true,if_false]
        split_ifs <;> omega

end VideoSurveillance.ModeAgreement

namespace VideoSurveillance.ServerReader
open ModeAgreement (EndsEpisode Overrides)

theorem motion_edges :
    (∀ newModes, ∃ bytes, modes (feed bytes start) = newModes) ∧
    (∀ bytes, (∀ newMode ∈ modes (feed bytes start), ConsistentMode newMode) →
      (∀ before newMode called after,
        (feed bytes start).headers = before ++ (newMode,called) :: after →
          (called = true ↔ newMode = 3 ∧ 3 ∉ sinceIdle (before.map Prod.fst))) ∧
      ∀ episode, episode <:+: (feed bytes start).headers → (∀ x ∈ episode, x.1 ≠ 0) →
        episode.countP (fun x => x.2) ≤ 1) ∧
    ∀ k events s later, (ModeAgreement.system k).run events = some s →
      (∀ x ∈ (ModeAgreement.system k).transitions s later, ¬ EndsEpisode x) →
      ((ModeAgreement.system k).transitions s later).countP (fun x => Overrides k x) ≤ 1 := by
  refine ⟨every_sequence_received,fun bytes hmodes => ?_,fun k events s later hrun hepisode => ?_⟩
  · have hdetects := detects_feed hmodes
    exact ⟨fun _ _ _ _ => called_iff hdetects,fun _ => called_once hdetects⟩
  · refine (ModeAgreement.overridden_once (ModeAgreement.consistent_run hrun) hepisode).trans ?_
    split_ifs <;> decide

def twoEpisodes : List UInt8 := [0,3,3,1,0,3].flatMap discardedFrame

theorem motion_edges_twoEpisodes :
    (feed twoEpisodes start).headers =
      [(0,false),(3,true),(3,false),(1,false),(0,false)] ++ (3,true) :: [] ∧
    (true = true ↔ (3 : UInt8) = 3 ∧ 3 ∉ sinceIdle [0,3,3,1,0]) ∧
    [((3 : UInt8),true),(3,false),(1,false)].countP (fun x => x.2) ≤ 1 := by
  have hheaders : (feed twoEpisodes start).headers =
      [(0,false),(3,true),(3,false),(1,false),(0,false)] ++ (3,true) :: [] := by decide +kernel
  have hmodes : ∀ newMode ∈ modes (feed twoEpisodes start), ConsistentMode newMode := by
    rw [modes,hheaders]
    simp [ConsistentMode]
  obtain ⟨hcalled,honce⟩ := motion_edges.2.1 twoEpisodes hmodes
  refine ⟨hheaders,hcalled _ _ _ _ hheaders,honce _ ?_ (by simp)⟩
  rw [hheaders]
  exact ⟨[(0,false)],[(0,false),(3,true)],rfl⟩

end VideoSurveillance.ServerReader
