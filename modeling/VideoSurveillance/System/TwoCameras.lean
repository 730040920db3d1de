import VideoSurveillance.Library.Amortized
import VideoSurveillance.System.ModeAgreement

namespace VideoSurveillance.TwoCameras

structure Link where
  server : ModeHandler Empty
  motion : Bool
  place : ServerWriter.Place
  commands : List UInt8
  frames : List UInt8
  deriving DecidableEq

structure State where
  client : Client
  links : PerCamera Link
  deriving DecidableEq

def State.link (s : State) (k : Camera) : Link := s.links.get k

def State.setLink (s : State) (k : Camera) (l : Link) : State :=
  { s with links := s.links.set k l }

inductive Event where
  | assignMovieMode (j : Camera) (movie : Bool)
  | updateGui (j : Camera)
  | detectMotion (k : Camera)
  | deliverCommand (k : Camera)
  | emitFrame (k : Camera)
  | deliverFrame (k : Camera)
  | enterNextMode (k : Camera)
  | wake (k : Camera)
  | write (k : Camera)
  deriving DecidableEq

def Link.receive (newMode : UInt8) (rest : List UInt8) (l : Link) : Link :=
  { l with motion := ServerReader.nextMotion l.motion newMode, frames := rest }

def receiveMode (k : Camera) (newMode : UInt8) (rest : List UInt8) (s : State) : State :=
  let t := s.setLink k ((s.link k).receive newMode rest)
  if ServerReader.announces (s.link k).motion newMode then
    { t with client := s.client.changeMode k.number .movie }
  else t

def step (s : State) : Event → Option State
  | .assignMovieMode j movie => some { s with client := s.client.assignMovieMode j movie }
  | .updateGui j => some { s with client := s.client.notify (.camera j) }
  | .detectMotion k =>
    some (s.setLink k { s.link k with server := (s.link k).server.setMode .movie 1 })
  | .deliverCommand k =>
    match (s.link k).commands with
    | [] => none
    | command :: rest => some (s.setLink k { s.link k with
        server := ModeAgreement.streamListener command (s.link k).server
        commands := rest })
  | .emitFrame k => some (s.setLink k { s.link k with
      frames := (s.link k).frames ++ [(s.link k).server.writer.headerMode] })
  | .deliverFrame k =>
    match (s.link k).frames with
    | [] => none
    | newMode :: rest => some (receiveMode k newMode rest s)
  | .enterNextMode k =>
    match (s.link k).place with
    | .outside => some (s.setLink k { s.link k with
        place := ServerWriter.nextModeLoop k s.client (s.client.mode k) })
    | _ => none
  | .wake k =>
    match (s.link k).place with
    | .waiting oldMode => some (s.setLink k { s.link k with
        place := ServerWriter.nextModeLoop k s.client oldMode })
    | _ => none
  | .write k =>
    match (s.link k).place with
    | .writing nextMode => some (s.setLink k { s.link k with
        place := .outside
        commands := (s.link k).commands ++ [ServerWriter.modeByte nextMode] })
    | _ => none

def connected : Link := ⟨ModeAgreement.booted,false,.outside,[],[]⟩

def system : Runs.System State Event where
  init := ⟨.start,⟨connected,connected⟩⟩
  step := step

inductive Stepped (s : State) : Event → State → Prop
  | assignMovieMode (j : Camera) (movie : Bool) :
      Stepped s (.assignMovieMode j movie) { s with client := s.client.assignMovieMode j movie }
  | updateGui (j : Camera) : Stepped s (.updateGui j) { s with client := s.client.notify (.camera j) }
  | detectMotion (k : Camera) : Stepped s (.detectMotion k)
      (s.setLink k { s.link k with server := (s.link k).server.setMode .movie 1 })
  | deliverCommand (k : Camera) {command : UInt8} {rest : List UInt8} :
      (s.link k).commands = command :: rest → Stepped s (.deliverCommand k)
        (s.setLink k { s.link k with
          server := ModeAgreement.streamListener command (s.link k).server
          commands := rest })
  | emitFrame (k : Camera) : Stepped s (.emitFrame k) (s.setLink k { s.link k with
      frames := (s.link k).frames ++ [(s.link k).server.writer.headerMode] })
  | deliverFrame (k : Camera) {newMode : UInt8} {rest : List UInt8} :
      (s.link k).frames = newMode :: rest →
      Stepped s (.deliverFrame k) (receiveMode k newMode rest s)
  | enterNextMode (k : Camera) : (s.link k).place = .outside →
      Stepped s (.enterNextMode k) (s.setLink k { s.link k with place := .waiting (s.client.mode k) })
  | unchanged (k : Camera) {oldMode : Mode} : (s.link k).place = .waiting oldMode →
      s.client.mode k = oldMode → Stepped s (.wake k) s
  | changed (k : Camera) {oldMode : Mode} : (s.link k).place = .waiting oldMode →
      s.client.mode k ≠ oldMode →
      Stepped s (.wake k) (s.setLink k { s.link k with place := .writing (s.client.mode k) })
  | write (k : Camera) {nextMode : Mode} : (s.link k).place = .writing nextMode →
      Stepped s (.write k) (s.setLink k { s.link k with
        place := .outside
        commands := (s.link k).commands ++ [ServerWriter.modeByte nextMode] })

@[simp] theorem link_setLink (s : State) (k : Camera) (l : Link) : (s.setLink k l).link k = l :=
  PerCamera.get_set _ k l

theorem link_setLink_ne (s : State) {j k : Camera} (h : j ≠ k) (l : Link) :
    (s.setLink k l).link j = s.link j := PerCamera.get_set_ne _ h l

@[simp] theorem client_setLink (s : State) (k : Camera) (l : Link) :
    (s.setLink k l).client = s.client := rfl

theorem link_setLink_keeps {A : Type} (f : Link → A) (s : State) {k : Camera} (j : Camera) {l : Link}
    (h : f l = f (s.link k)) : f ((s.setLink k l).link j) = f (s.link j) := by
  rcases eq_or_ne j k with rfl | hjk
  · rw [link_setLink,h]
  · rw [link_setLink_ne s hjk]

theorem setLink_link (s : State) (k : Camera) : s.setLink k (s.link k) = s := by
  simp [State.setLink,State.link]

theorem stepped {s t : State} {e : Event} (h : step s e = some t) : Stepped s e t := by
  cases e with
  | assignMovieMode j movie =>
    cases h
    exact .assignMovieMode j movie
  | updateGui j =>
    cases h
    exact .updateGui j
  | detectMotion k =>
    cases h
    exact .detectMotion k
  | deliverCommand k =>
    simp only [step] at h
    split at h
    · cases h
    · next command rest hcommands =>
      cases h
      exact .deliverCommand k hcommands
  | emitFrame k =>
    cases h
    exact .emitFrame k
  | deliverFrame k =>
    simp only [step] at h
    split at h
    · cases h
    · next newMode rest hframes =>
      cases h
      exact .deliverFrame k hframes
  | enterNextMode k =>
    simp only [step] at h
    split at h
    · next hplace =>
      rw [ServerWriter.nextModeLoop,if_pos rfl] at h
      cases h
      exact .enterNextMode k hplace
    · cases h
  | wake k =>
    simp only [step] at h
    split at h
    · next oldMode hplace =>
      cases h
      rcases eq_or_ne (s.client.mode k) oldMode with hm | hm
      · rw [ServerWriter.nextModeLoop,if_pos hm,← hplace]
        rw [setLink_link]
        exact .unchanged k hplace hm
      · rw [ServerWriter.nextModeLoop,if_neg hm]
        exact .changed k hplace hm
    · cases h
  | write k =>
    simp only [step] at h
    split at h
    · next nextMode hplace =>
      cases h
      exact .write k hplace
    · cases h

theorem link_receiveMode (k j : Camera) (newMode : UInt8) (rest : List UInt8) (s : State) :
    (receiveMode k newMode rest s).link j =
      (s.setLink k ((s.link k).receive newMode rest)).link j := by
  simp only [receiveMode]
  split_ifs <;> rfl

structure Booted (s : State) : Prop where
  server : ∀ k, ModeAgreement.Booted (s.link k).server
  frames : ∀ k, ∀ b ∈ (s.link k).frames, b = 0 ∨ b = 1 ∨ b = 3

theorem booted_setLink {s : State} (h : Booted s) (k : Camera) {l : Link}
    (hserver : ModeAgreement.Booted l.server) (hframes : ∀ b ∈ l.frames, b = 0 ∨ b = 1 ∨ b = 3) :
    Booted (s.setLink k l) := by
  constructor
  · intro j
    rcases eq_or_ne j k with rfl | hjk
    · rwa [link_setLink]
    · rw [link_setLink_ne s hjk]
      exact h.server j
  · intro j
    rcases eq_or_ne j k with rfl | hjk
    · rwa [link_setLink]
    · rw [link_setLink_ne s hjk]
      exact h.frames j

theorem booted_step {s t : State} {e : Event} (h : Booted s) (hs : step s e = some t) :
    Booted t := by
  cases stepped hs with
  | assignMovieMode | updateGui => exact ⟨h.server,h.frames⟩
  | unchanged => exact h
  | detectMotion k =>
    exact booted_setLink h k (ModeAgreement.booted_setMode (h.server k) .movie 1).1 (h.frames k)
  | deliverCommand k =>
    exact booted_setLink h k (ModeAgreement.booted_streamListener (h.server k) _) (h.frames k)
  | emitFrame k =>
    exact booted_setLink h k (h.server k) (ModeAgreement.frames_emitted (h.server k) (h.frames k))
  | @deliverFrame k newMode rest hframes =>
    have hbooted : Booted (s.setLink k ((s.link k).receive newMode rest)) :=
      booted_setLink h k (h.server k) (fun b hb => h.frames k b (by rw [hframes]; exact .tail _ hb))
    simp only [receiveMode]
    split_ifs
    · exact ⟨hbooted.server,hbooted.frames⟩
    · exact hbooted
  | enterNextMode k | changed k | write k => exact booted_setLink h k (h.server k) (h.frames k)

theorem booted_run {events : List Event} {s : State} (hrun : system.run events = some s) :
    Booted s := by
  refine system.invariant ⟨fun k => ?_,fun k => ?_⟩ (fun s e t => booted_step) hrun
  · cases k <;> exact ⟨rfl,rfl,.inl rfl⟩
  · cases k <;> simp [system,State.link,PerCamera.get,connected]

def announced : Bool → List UInt8 → ℕ
  | _, [] => 0
  | motion, newMode :: rest =>
    (if ServerReader.announces motion newMode then 1 else 0) +
      announced (ServerReader.nextMotion motion newMode) rest

theorem announced_append (motion : Bool) (xs ys : List UInt8) :
    announced motion (xs ++ ys) =
      announced motion xs + announced (xs.foldl ServerReader.nextMotion motion) ys := by
  induction xs generalizing motion with
  | nil => exact (Nat.zero_add _).symm
  | cons x xs ih => rw [List.cons_append,announced,announced,ih,List.foldl_cons,Nat.add_assoc]

theorem announced_motion_le (motion : Bool) : announced motion [3] ≤ 1 := by
  cases motion <;> decide

theorem announced_motion_twice (motion : Bool) : announced motion [3,3] = announced motion [3] := by
  cases motion <;> decide

theorem announced_quiet {newMode : UInt8} (h : newMode = 0 ∨ newMode = 1) (motion : Bool) :
    announced motion [newMode] = 0 := by
  rcases h with rfl | rfl <;> cases motion <;> decide

def unseen (l : Link) : List UInt8 := if l.server.writer.motionBit = 2 then [3] else []

def pendingMotion (l : Link) : ℕ := announced l.motion (l.frames ++ unseen l)

theorem pendingMotion_mono {l l' : Link} (hmotion : l'.motion = l.motion)
    (hframes : l'.frames = l.frames)
    (hbit : l'.server.writer.motionBit = 2 → l.server.writer.motionBit = 2) :
    pendingMotion l' ≤ pendingMotion l := by
  rw [pendingMotion,pendingMotion,hmotion,hframes,announced_append,announced_append]
  refine Nat.add_le_add_left ?_ _
  unfold unseen
  split_ifs with h' h
  · exact Nat.le_refl _
  · exact absurd (hbit h') h
  · exact Nat.zero_le _
  · exact Nat.le_refl _

theorem pendingMotion_emitFrame {l : Link} (h : ModeAgreement.Booted l.server) :
    pendingMotion { l with frames := l.frames ++ [l.server.writer.headerMode] } =
      pendingMotion l := by
  simp only [pendingMotion,List.append_assoc]
  rw [announced_append l.motion l.frames (unseen l),announced_append l.motion l.frames ([_] ++ _)]
  congr 1
  rcases h.motionBit with hbit | ⟨hbit,hmode⟩
  · have hquiet : l.server.writer.headerMode = 0 ∨ l.server.writer.headerMode = 1 := by
      rw [SocketWriter.headerMode,hbit]
      cases l.server.writer.mode
      · exact .inl rfl
      · exact .inr rfl
    have hunseen : unseen l = [] := if_neg (by rw [hbit]; decide)
    have hunseen' : unseen { l with frames := l.frames ++ [l.server.writer.headerMode] } = [] :=
      hunseen
    rw [hunseen,hunseen']
    exact announced_quiet hquiet _
  · have hheader := ModeAgreement.headerMode_announced h hbit hmode
    have hunseen : unseen l = [3] := if_pos hbit
    have hunseen' : unseen { l with frames := l.frames ++ [l.server.writer.headerMode] } = [3] :=
      hunseen
    rw [hunseen,hunseen',hheader]
    exact announced_motion_twice _

theorem pendingMotion_le_succ {l l' : Link} (hmotion : l'.motion = l.motion)
    (hframes : l'.frames = l.frames) : pendingMotion l' ≤ pendingMotion l + 1 := by
  rw [pendingMotion,pendingMotion,hmotion,hframes,announced_append,announced_append,Nat.add_assoc]
  refine Nat.add_le_add_left (Nat.le_add_left_of_le ?_) _
  unfold unseen
  split_ifs
  · exact announced_motion_le _
  · exact Nat.zero_le _

theorem pendingMotion_deliverFrame {l : Link} {newMode : UInt8} {rest : List UInt8}
    (hframes : l.frames = newMode :: rest) :
    pendingMotion l = (if ServerReader.announces l.motion newMode then 1 else 0) +
      pendingMotion (l.receive newMode rest) := by
  rw [pendingMotion,hframes,List.cons_append,announced]
  rfl

theorem motionBit_streamListener {server : ModeHandler Empty} (h : ModeAgreement.Booted server)
    (command : UInt8)
    (hbit : (ModeAgreement.streamListener command server).writer.motionBit = 2) :
    server.writer.motionBit = 2 := by
  have hsilent : ∀ m, (server.setMode m 0).writer.motionBit = 2 → server.writer.motionBit = 2 := by
    intro m hm
    rcases eq_or_ne server.mode m with heq | hne
    · rwa [ModeHandler.setMode_same 0 heq] at hm
    · rw [ModeAgreement.setMode_writer h 0 hne] at hm
      simp at hm
  unfold ModeAgreement.streamListener at hbit
  split_ifs at hbit
  · exact hsilent .idle hbit
  · exact hsilent .movie hbit
  · exact hbit

abbrev Transition := Runs.Transition State Event

def detection (x : Transition) : ℕ :=
  match x.event with
  | .detectMotion k => if (x.source.link k).server.mode = .idle then 1 else 0
  | _ => 0

def click (j : Camera) (x : Transition) : ℕ :=
  match x.event with
  | .assignMovieMode i _ => if i = j then 1 else 0
  | _ => 0

def announcement (x : Transition) : ℕ :=
  match x.event with
  | .deliverFrame k =>
    match (x.source.link k).frames with
    | newMode :: _ => if ServerReader.announces (x.source.link k).motion newMode then 1 else 0
    | [] => 0
  | _ => 0

def clientSwitch (j : Camera) (x : Transition) : ℕ :=
  if x.target.client.mode j = x.source.client.mode j then 0 else 1

def commandWritten (j : Camera) (x : Transition) : ℕ := if x.event = .write j then 1 else 0

def commandObeyed (j : Camera) (x : Transition) : ℕ := if x.event = .deliverCommand j then 1 else 0

def serverSwitch (j : Camera) (x : Transition) : ℕ :=
  if (x.target.link j).server.mode = (x.source.link j).server.mode then 0 else 1

def pendingMotions (s : State) : ℕ := pendingMotion (s.link .one) + pendingMotion (s.link .two)

theorem pendingMotions_setLink (s : State) (k : Camera) (l : Link) :
    pendingMotions (s.setLink k l) + pendingMotion (s.link k) =
      pendingMotions s + pendingMotion l := by
  cases k with
  | one =>
    have hother : (s.setLink .one l).link .two = s.link .two := rfl
    have hsame : (s.setLink .one l).link .one = l := rfl
    simp only [pendingMotions,hother,hsame]
    omega
  | two =>
    have hother : (s.setLink .two l).link .one = s.link .one := rfl
    have hsame : (s.setLink .two l).link .two = l := rfl
    simp only [pendingMotions,hother,hsame]
    omega

theorem pendingMotions_mono {s : State} {k : Camera} {l : Link} {n : ℕ}
    (h : pendingMotion l ≤ pendingMotion (s.link k) + n) :
    pendingMotions (s.setLink k l) ≤ pendingMotions s + n := by
  have hlink := pendingMotions_setLink s k l
  omega

theorem announcements_paid {s t : State} {e : Event} (h : Booted s) (hs : step s e = some t) :
    announcement ⟨s,e,t⟩ + pendingMotions t ≤ pendingMotions s + detection ⟨s,e,t⟩ := by
  cases stepped hs with
  | assignMovieMode | updateGui | unchanged => simp [announcement,pendingMotions,State.link]
  | enterNextMode k | changed k | write k =>
    simp only [announcement,detection,Nat.zero_add]
    exact pendingMotions_mono (pendingMotion_mono rfl rfl id)
  | emitFrame k =>
    simp only [announcement,detection,Nat.zero_add]
    exact pendingMotions_mono (pendingMotion_emitFrame (h.server k)).le
  | detectMotion k =>
    simp only [announcement,detection,Nat.zero_add]
    apply pendingMotions_mono
    split_ifs with hidle
    · exact pendingMotion_le_succ rfl rfl
    · have hmovie : (s.link k).server.mode = .movie := by
        cases hm : (s.link k).server.mode with
        | idle => exact absurd hm hidle
        | movie => rfl
      rw [ModeHandler.setMode_same 1 hmovie]
      exact Nat.le_refl _
  | deliverCommand k hcommands =>
    simp only [announcement,detection,Nat.zero_add]
    exact pendingMotions_mono
      (pendingMotion_mono rfl rfl (motionBit_streamListener (h.server k) _))
  | @deliverFrame k newMode rest hframes =>
    have hlinks : pendingMotions (receiveMode k newMode rest s) =
        pendingMotions (s.setLink k ((s.link k).receive newMode rest)) := by
      simp only [receiveMode]
      split_ifs <;> rfl
    have hlink := pendingMotions_setLink s k ((s.link k).receive newMode rest)
    have hseen := pendingMotion_deliverFrame hframes
    simp only [announcement,detection,hframes,hlinks]
    omega

def pendingClick (j : Camera) (c : Client) : ℕ :=
  if c.mode j = .movie ↔ (c.model j).movieModeOn = true then 0 else 1

def pendingCommand (j : Camera) (c : Client) : ServerWriter.Place → ℕ
  | .outside => 0
  | .waiting oldMode => if c.mode j = oldMode then 0 else 1
  | .writing _ => 1

theorem pendingClick_of_view {c d : Client} {j : Camera} (h : d.view j = c.view j) :
    pendingClick j d = pendingClick j c := by
  have hmode : d.mode j = c.mode j := congrArg CameraView.mode h
  have hon : (d.model j).movieModeOn = (c.model j).movieModeOn := congrArg CameraView.movieModeOn h
  rw [pendingClick,pendingClick,hmode,hon]

theorem mode_of_view {c d : Client} {j : Camera} (h : d.view j = c.view j) :
    d.mode j = c.mode j := congrArg CameraView.mode h

theorem pendingClick_le (j : Camera) (c : Client) : pendingClick j c ≤ 1 := by
  unfold pendingClick
  split_ifs <;> decide

theorem pendingClick_react {v : CameraView} :
    (v.react.mode = .movie ↔ v.react.movieModeOn = true) ∧
      ((v.mode = .movie ↔ v.movieModeOn = true) → v.react.mode = v.mode) := by
  obtain ⟨m,on,motion⟩ := v
  cases m <;> cases on <;> simp [CameraView.react]

theorem pendingClick_updateGui (j : Camera) (c : Client) :
    pendingClick j (c.notify (.camera j)) = 0 := by
  have h := (pendingClick_react (v := c.view j)).1
  rw [← Client.view_notify] at h
  exact if_pos h

theorem mode_updateGui (j : Camera) (c : Client) (hpending : pendingClick j c = 0) :
    (c.notify (.camera j)).mode j = c.mode j := by
  have hagree : c.mode j = .movie ↔ (c.model j).movieModeOn = true := by
    by_contra hne
    rw [pendingClick,if_neg hne] at hpending
    cases hpending
  have h := (pendingClick_react (v := c.view j)).2 hagree
  rw [← Client.view_notify] at h
  exact h

theorem announceMotion_on (target : Bool) (v : CameraView) :
    (v.announceMotion target).movieModeOn = true := by
  obtain ⟨m,on,motion⟩ := v
  cases m <;> cases on <;> rfl

theorem pendingClick_changeMode (k j : Camera) (c : Client) :
    pendingClick j (c.changeMode k.number .movie) = 0 := by
  have hview := Client.view_changeMode_movie k j c
  have hmode : (c.changeMode k.number .movie).mode j = .movie := congrArg CameraView.mode hview
  have hon : ((c.changeMode k.number .movie).model j).movieModeOn = true :=
    (congrArg CameraView.movieModeOn hview).trans (announceMotion_on _ _)
  rw [pendingClick,if_pos (iff_of_true hmode hon)]

theorem clientSwitches_paid (j : Camera) {s t : State} {e : Event} (hs : step s e = some t) :
    clientSwitch j ⟨s,e,t⟩ + pendingClick j t.client ≤
      pendingClick j s.client + (announcement ⟨s,e,t⟩ + click j ⟨s,e,t⟩) := by
  have hsame : ∀ c : Client, c.view j = s.client.view j →
      (if c.mode j = s.client.mode j then 0 else 1) + pendingClick j c ≤
        pendingClick j s.client := by
    intro c hview
    rw [if_pos (mode_of_view hview),pendingClick_of_view hview,Nat.zero_add]
  have hbound := pendingClick_le j
  cases stepped hs with
  | assignMovieMode i movie =>
    rcases eq_or_ne j i with rfl | hji
    · have hmode : (s.client.assignMovieMode j movie).mode j = s.client.mode j :=
        Client.mode_setModel _ _ _ _
      have hnow := hbound (s.client.assignMovieMode j movie)
      simp only [clientSwitch,announcement,click,hmode,if_true]
      omega
    · exact (hsame _ (Client.view_setModel_ne hji _ _)).trans (Nat.le_add_right _ _)
  | updateGui i =>
    rcases eq_or_ne j i with rfl | hji
    · simp only [clientSwitch,announcement,click,pendingClick_updateGui]
      rcases Nat.eq_zero_or_pos (pendingClick j s.client) with hzero | hpos
      · rw [if_pos (mode_updateGui j s.client hzero)]
        omega
      · split_ifs <;> omega
    · exact (hsame _ (Client.view_notify_ne hji _)).trans (Nat.le_add_right _ _)
  | unchanged | detectMotion | deliverCommand | emitFrame | enterNextMode | changed | write =>
    exact (hsame s.client rfl).trans (Nat.le_add_right _ _)
  | @deliverFrame k newMode rest hframes =>
    simp only [clientSwitch,announcement,click,hframes,receiveMode]
    rcases Bool.eq_false_or_eq_true (ServerReader.announces (s.link k).motion newMode) with ha | ha
    · simp only [ha,if_true,pendingClick_changeMode]
      split_ifs <;> omega
    · simp [ha]

theorem pendingCommand_mode (j : Camera) (c d : Client) (p : ServerWriter.Place) :
    pendingCommand j d p ≤ pendingCommand j c p + if d.mode j = c.mode j then 0 else 1 := by
  cases p with
  | outside | writing => exact Nat.le_add_right _ _
  | waiting oldMode =>
    simp only [pendingCommand]
    by_cases hd : d.mode j = oldMode
    · rw [if_pos hd]
      exact Nat.zero_le _
    · by_cases hc : c.mode j = oldMode
      · rw [if_neg hd,if_pos hc,if_neg (fun h : d.mode j = c.mode j => hd (h.trans hc))]
      · rw [if_neg hd,if_neg hc]
        exact Nat.le_add_right _ _

theorem commandsWritten_paid (j : Camera) {s t : State} {e : Event} (hs : step s e = some t) :
    commandWritten j ⟨s,e,t⟩ + pendingCommand j t.client (t.link j).place ≤
      pendingCommand j s.client (s.link j).place + clientSwitch j ⟨s,e,t⟩ := by
  have hquiet : commandWritten j ⟨s,e,t⟩ = 0 → (t.link j).place = (s.link j).place →
      commandWritten j ⟨s,e,t⟩ + pendingCommand j t.client (t.link j).place ≤
        pendingCommand j s.client (s.link j).place + clientSwitch j ⟨s,e,t⟩ := by
    intro hzero hplace
    rw [hzero,hplace,Nat.zero_add]
    exact pendingCommand_mode j s.client _ _
  cases stepped hs with
  | assignMovieMode | updateGui | unchanged => exact hquiet rfl rfl
  | detectMotion k | deliverCommand k | emitFrame k =>
    exact hquiet rfl (link_setLink_keeps Link.place s j rfl)
  | @deliverFrame k newMode rest hframes =>
    refine hquiet rfl ?_
    rw [link_receiveMode]
    exact link_setLink_keeps Link.place s j rfl
  | enterNextMode k hplace =>
    rcases eq_or_ne j k with rfl | hjk
    · simp [commandWritten,pendingCommand]
    · exact hquiet rfl (by rw [link_setLink_ne s hjk])
  | @changed k oldMode hplace hm =>
    rcases eq_or_ne j k with rfl | hjk
    · simp [commandWritten,pendingCommand,hplace,hm]
    · exact hquiet rfl (by rw [link_setLink_ne s hjk])
  | write k hplace =>
    rcases eq_or_ne j k with rfl | hjk
    · simp [commandWritten,pendingCommand,hplace]
    · exact hquiet (if_neg (fun h => hjk (Event.write.inj h).symm)) (by rw [link_setLink_ne s hjk])

theorem commandsObeyed_paid (j : Camera) {s t : State} {e : Event} (hs : step s e = some t) :
    commandObeyed j ⟨s,e,t⟩ + (t.link j).commands.length ≤
      (s.link j).commands.length + commandWritten j ⟨s,e,t⟩ := by
  have hquiet : commandObeyed j ⟨s,e,t⟩ = 0 → (t.link j).commands = (s.link j).commands →
      commandObeyed j ⟨s,e,t⟩ + (t.link j).commands.length ≤
        (s.link j).commands.length + commandWritten j ⟨s,e,t⟩ := by
    intro hzero hcommands
    rw [hzero,hcommands,Nat.zero_add]
    exact Nat.le_add_right _ _
  cases stepped hs with
  | assignMovieMode | updateGui | unchanged => exact hquiet rfl rfl
  | detectMotion k | emitFrame k | enterNextMode k | changed k =>
    exact hquiet rfl (link_setLink_keeps Link.commands s j rfl)
  | @deliverFrame k newMode rest hframes =>
    refine hquiet rfl ?_
    rw [link_receiveMode]
    exact link_setLink_keeps Link.commands s j rfl
  | deliverCommand k hcommands =>
    rcases eq_or_ne j k with rfl | hjk
    · simp [commandObeyed,hcommands,Nat.add_comm]
    · exact hquiet (if_neg (fun h => hjk (Event.deliverCommand.inj h).symm))
        (by rw [link_setLink_ne s hjk])
  | write k hplace =>
    rcases eq_or_ne j k with rfl | hjk
    · simp [commandObeyed,commandWritten]
    · exact hquiet rfl (by rw [link_setLink_ne s hjk])

theorem serverSwitches_paid (j : Camera) {s t : State} {e : Event} (hs : step s e = some t) :
    serverSwitch j ⟨s,e,t⟩ ≤ commandObeyed j ⟨s,e,t⟩ + detection ⟨s,e,t⟩ := by
  have hquiet : (t.link j).server = (s.link j).server →
      serverSwitch j ⟨s,e,t⟩ ≤ commandObeyed j ⟨s,e,t⟩ + detection ⟨s,e,t⟩ := by
    intro hserver
    rw [serverSwitch,if_pos (congrArg ModeHandler.mode hserver)]
    exact Nat.zero_le _
  have hone : serverSwitch j ⟨s,e,t⟩ ≤ 1 := by
    unfold serverSwitch
    split_ifs <;> decide
  cases stepped hs with
  | assignMovieMode | updateGui | unchanged => exact hquiet rfl
  | emitFrame k | enterNextMode k | changed k | write k =>
    exact hquiet (link_setLink_keeps Link.server s j rfl)
  | @deliverFrame k newMode rest hframes =>
    apply hquiet
    rw [link_receiveMode]
    exact link_setLink_keeps Link.server s j rfl
  | deliverCommand k hcommands =>
    rcases eq_or_ne j k with rfl | hjk
    · refine hone.trans (Nat.le_add_right_of_le ?_)
      rw [commandObeyed,if_pos rfl]
    · exact hquiet (by rw [link_setLink_ne s hjk])
  | detectMotion k =>
    rcases eq_or_ne j k with rfl | hjk
    · cases hm : (s.link j).server.mode with
      | idle =>
        refine hone.trans (Nat.le_add_left_of_le ?_)
        simp only [detection,hm,if_true,Nat.le_refl]
      | movie =>
        apply hquiet
        rw [link_setLink]
        exact ModeHandler.setMode_same 1 hm
    · exact hquiet (by rw [link_setLink_ne s hjk])

def detections (s : State) (later : List Event) : ℕ := system.total detection s later

def clicks (j : Camera) (s : State) (later : List Event) : ℕ := system.total (click j) s later

def unsettled (j : Camera) (s : State) : ℕ :=
  pendingMotions s + pendingClick j s.client + pendingCommand j s.client (s.link j).place +
    (s.link j).commands.length

theorem unsettled_start (j : Camera) : unsettled j system.init = 0 := by cases j <;> rfl

theorem mode_traffic_bounded (j : Camera) (events later : List Event) (s t : State)
    (hrun : system.run events = some s) (hafter : system.after s later = some t) :
    system.total (clientSwitch j) s later ≤
      unsettled j s + detections s later + clicks j s later ∧
    system.total (commandWritten j) s later ≤
      unsettled j s + detections s later + clicks j s later ∧
    system.total (serverSwitch j) s later ≤
      unsettled j s + 2 * detections s later + clicks j s later ∧
    unsettled j system.init = 0 := by
  have hany : ∀ s e t, True → step s e = some t → True := fun _ _ _ _ _ => trivial
  have hmotions := system.amortized Booted pendingMotions announcement detection
    (fun _ _ _ => booted_step) (fun _ _ _ => announcements_paid) (booted_run hrun) hafter
  have hclicks := system.amortized (fun _ => True) (fun s => pendingClick j s.client)
    (clientSwitch j) (fun x => announcement x + click j x) hany
    (fun _ _ _ _ => clientSwitches_paid j) trivial hafter
  have hwrites := system.amortized (fun _ => True)
    (fun s => pendingCommand j s.client (s.link j).place) (commandWritten j) (clientSwitch j) hany
    (fun _ _ _ _ => commandsWritten_paid j) trivial hafter
  have hcommands := system.amortized (fun _ => True) (fun s => (s.link j).commands.length)
    (commandObeyed j) (commandWritten j) hany (fun _ _ _ _ => commandsObeyed_paid j) trivial hafter
  have hservers := system.amortized (fun _ => True) (fun _ => 0) (serverSwitch j)
    (fun x => commandObeyed j x + detection x) hany
    (fun s e t _ hs => by simpa using serverSwitches_paid j hs) trivial hafter
  rw [Runs.System.total_add] at hclicks hservers
  simp only [unsettled,detections,clicks]
  refine ⟨by omega,by omega,by omega,unsettled_start j⟩

def motionSeenByOne : List Event :=
  [.enterNextMode .one,.enterNextMode .two,.detectMotion .one,.emitFrame .one]

def bothServersSwitched : List Event :=
  [.deliverFrame .one,.detectMotion .one,.wake .two,.write .two,.deliverCommand .two]

theorem mode_traffic_bounded_motionSeenByOne :
    ∃ s, system.run motionSeenByOne = some s ∧ unsettled .two s = 1 ∧
      detections s bothServersSwitched = 0 ∧ clicks .two s bothServersSwitched = 0 ∧
      system.total (commandWritten .two) s bothServersSwitched = 1 ∧
      system.total (commandWritten .two) s bothServersSwitched ≤ 1 := by
  refine ⟨_,rfl,by decide,by decide,by decide,by decide,?_⟩
  have h := mode_traffic_bounded .two motionSeenByOne bothServersSwitched _ _ rfl rfl
  exact h.2.1

end VideoSurveillance.TwoCameras
