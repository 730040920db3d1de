import VideoSurveillance.Client.ServerReader
import VideoSurveillance.Client.ServerWriter
import VideoSurveillance.Server.ModeHandler

namespace VideoSurveillance.ModeAgreement

structure State where
  server : ModeHandler Empty
  client : Client
  motion : Bool
  commands : List UInt8
  frames : List UInt8
  emitted : Bool
  deriving DecidableEq

inductive Event where
  | click (j : Camera) (movie : Bool)
  | detectMotion
  | deliverCommand
  | emitFrame
  | deliverFrame
  deriving DecidableEq

def streamListener (command : UInt8) (server : ModeHandler Empty) : ModeHandler Empty :=
  if command = 0x30 then server.setMode .idle 0
  else if command = 0x31 then server.setMode .movie 0
  else server

def updateServer (server : ModeHandler Empty) (s : State) : State :=
  { s with server := server, emitted := s.emitted && server.mode = s.server.mode }

def updateClient (k : Camera) (client : Client) (s : State) : State :=
  { s with
    client := client
    commands := if client.mode k = s.client.mode k then s.commands
      else s.commands ++ [ServerWriter.modeByte (client.mode k)] }

def receiveMode (k : Camera) (newMode : UInt8) (s : State) : State :=
  let t := { s with motion := ServerReader.nextMotion s.motion newMode }
  if ServerReader.announces s.motion newMode then
    updateClient k (s.client.changeMode k.number .movie) t
  else t

def step (k : Camera) (s : State) : Event → Option State
  | .click j movie => some (updateClient k (s.client.setMovieMode j movie) s)
  | .detectMotion => some (updateServer (s.server.setMode .movie 1) s)
  | .deliverCommand =>
    match s.commands with
    | [] => none
    | command :: rest =>
      some { updateServer (streamListener command s.server) s with commands := rest }
  | .emitFrame =>
    some { s with frames := s.frames ++ [s.server.writer.headerMode], emitted := true }
  | .deliverFrame =>
    match s.frames with
    | [] => none
    | newMode :: rest => some (receiveMode k newMode { s with frames := rest })

inductive Stepped (k : Camera) (s : State) : Event → State → Prop
  | click (j : Camera) (movie : Bool) :
      Stepped k s (.click j movie) (updateClient k (s.client.setMovieMode j movie) s)
  | detectMotion : Stepped k s .detectMotion (updateServer (s.server.setMode .movie 1) s)
  | deliverCommand {command : UInt8} {rest : List UInt8} : s.commands = command :: rest →
      Stepped k s .deliverCommand
        { updateServer (streamListener command s.server) s with commands := rest }
  | emitFrame : Stepped k s .emitFrame
      { s with frames := s.frames ++ [s.server.writer.headerMode], emitted := true }
  | deliverFrame {newMode : UInt8} {rest : List UInt8} : s.frames = newMode :: rest →
      Stepped k s .deliverFrame (receiveMode k newMode { s with frames := rest })

theorem stepped {k : Camera} {s t : State} {e : Event} (h : step k s e = some t) :
    Stepped k s e t := by
  cases e with
  | click j movie =>
    cases h
    exact .click j movie
  | detectMotion =>
    cases h
    exact .detectMotion
  | deliverCommand =>
    simp only [step] at h
    split at h
    · cases h
    · next command rest hcommands =>
      cases h
      exact .deliverCommand hcommands
  | emitFrame =>
    cases h
    exact .emitFrame
  | deliverFrame =>
    simp only [step] at h
    split at h
    · cases h
    · next newMode rest hframes =>
      cases h
      exact .deliverFrame hframes

def booted : ModeHandler Empty :=
  ModeHandler.loaded.initModeHandler.registerOnChangeCallback .socketSetMode true

def system (k : Camera) : Runs.System State Event where
  init := ⟨booted,.start,false,[],[],false⟩
  step := step k

def Agrees (k : Camera) (s : State) : Prop :=
  s.commands = [] → s.frames = [] → s.emitted = true → s.client.mode k = s.server.mode

def fires : Bool → List UInt8 → Bool
  | _, [] => false
  | motion, newMode :: rest =>
    ServerReader.announces motion newMode || fires (ServerReader.nextMotion motion newMode) rest

theorem fires_append {motion : Bool} {xs : List UInt8} (h : fires motion xs = true)
    (ys : List UInt8) : fires motion (xs ++ ys) = true := by
  induction xs generalizing motion with
  | nil => cases h
  | cons x xs ih =>
    rw [fires,Bool.or_eq_true] at h
    rw [List.cons_append,fires,Bool.or_eq_true]
    exact h.imp_right ih

theorem fires_unflagged (xs : List UInt8) : fires false (xs ++ [3]) = true := by
  induction xs with
  | nil => decide
  | cons x xs ih =>
    rw [List.cons_append,fires,Bool.or_eq_true]
    cases ha : ServerReader.announces false x with
    | true => exact .inl rfl
    | false =>
      right
      simpa [ServerReader.nextMotion,ha] using ih

theorem fires_cleared (motion : Bool) {xs : List UInt8} (h : 0 ∈ xs) :
    fires motion (xs ++ [3]) = true := by
  induction xs generalizing motion with
  | nil => cases h
  | cons x xs ih =>
    rw [List.cons_append,fires,Bool.or_eq_true]
    rcases List.mem_cons.mp h with rfl | hx
    · right
      have hclear : ServerReader.nextMotion motion 0 = false := by cases motion <;> decide
      rw [hclear]
      exact fires_unflagged xs
    · exact .inr (ih _ hx)

structure Booted (s : ModeHandler Empty) : Prop where
  callbackList : s.callbackList = [.socketSetMode]
  mode : s.writer.mode = s.mode
  motionBit : s.writer.motionBit = 0 ∨ s.writer.motionBit = 2 ∧ s.mode = .movie

theorem setMode_writer {s : ModeHandler Empty} (h : Booted s) {m : Mode} (f : Int32)
    (hm : s.mode ≠ m) :
    (s.setMode m f).writer = ⟨m,if m = .movie ∧ f ≠ 0 then 2 else 0⟩ := by
  have hw : s.writer.mode ≠ m := h.mode ▸ hm
  have hreg : s.callbackList.any Callback.updatesWriter = true := by rw [h.callbackList]; rfl
  rw [ModeHandler.setMode_changed f hm,if_pos hreg,SocketWriter.socketSetMode_changed f hw]
  cases m with
  | idle => rfl
  | movie =>
    have hbit : s.writer.motionBit = 0 := by
      rcases h.motionBit with hz | ⟨-,hmovie⟩
      · exact hz
      · exact absurd hmovie hm
    simp [hbit]

theorem booted_setMode {s : ModeHandler Empty} (h : Booted s) (m : Mode) (f : Int32) :
    Booted (s.setMode m f) ∧ (s.setMode m f).mode = m := by
  rcases eq_or_ne s.mode m with hm | hm
  · rw [ModeHandler.setMode_same f hm]
    exact ⟨h,hm⟩
  · have hmode : (s.setMode m f).mode = m := by rw [ModeHandler.setMode_changed f hm]
    refine ⟨⟨?_,?_,?_⟩,hmode⟩
    · rw [ModeHandler.setMode_callbackList,h.callbackList]
    · rw [setMode_writer h f hm,hmode]
    · rw [setMode_writer h f hm,hmode]
      split_ifs with hf
      · exact .inr ⟨rfl,hf.1⟩
      · exact .inl rfl

theorem booted_streamListener {server : ModeHandler Empty} (h : Booted server) (command : UInt8) :
    Booted (streamListener command server) := by
  unfold streamListener
  split_ifs
  · exact (booted_setMode h .idle 0).1
  · exact (booted_setMode h .movie 0).1
  · exact h

theorem setMode_motion {s : ModeHandler Empty} (h : Booted s) (hidle : s.mode = .idle) :
    (s.setMode .movie 1).writer.motionBit = 2 := by
  have hm : s.mode ≠ .movie := by rw [hidle]; decide
  rw [setMode_writer h 1 hm]
  rfl

theorem headerMode_booted {s : ModeHandler Empty} (h : Booted s) :
    s.writer.headerMode = 0 ∨ s.writer.headerMode = 1 ∨ s.writer.headerMode = 3 := by
  rw [SocketWriter.headerMode,h.mode]
  rcases h.motionBit with hbit | ⟨hbit,hmode⟩
  · rw [hbit]
    cases s.mode with
    | idle => exact .inl rfl
    | movie => exact .inr (.inl rfl)
  · rw [hbit,hmode]
    exact .inr (.inr rfl)

theorem frames_emitted {s : ModeHandler Empty} (h : Booted s) {frames : List UInt8}
    (hframes : ∀ b ∈ frames, b = 0 ∨ b = 1 ∨ b = 3) :
    ∀ b ∈ frames ++ [s.writer.headerMode], b = 0 ∨ b = 1 ∨ b = 3 := by
  intro b hb
  rcases List.mem_append.mp hb with hb | hb
  · exact hframes b hb
  · rw [List.mem_singleton.mp hb]
    exact headerMode_booted h

theorem headerMode_announced {s : ModeHandler Empty} (h : Booted s)
    (hbit : s.writer.motionBit = 2) (hmode : s.mode = .movie) : s.writer.headerMode = 3 := by
  rw [SocketWriter.headerMode,h.mode,hbit,hmode]
  rfl

def unread (s : State) : List UInt8 := s.frames ++ if s.emitted then [] else [3]

inductive Settled (k : Camera) (s : State) : Prop
  | agreed : s.server.mode = s.client.mode k → Settled k s
  | announced : s.server.mode = .movie → s.server.writer.motionBit = 2 → s.client.mode k = .idle →
      fires s.motion (unread s) = true → Settled k s

structure Channels (k : Camera) (s : State) : Prop where
  booted : Booted s.server
  frames : ∀ b ∈ s.frames, b = 0 ∨ b = 1 ∨ b = 3
  commands : ∀ b ∈ s.commands, ∃ m, b = ServerWriter.modeByte m
  in_flight : s.commands ≠ [] → s.commands.getLast? = some (ServerWriter.modeByte (s.client.mode k))

structure Agreeing (k : Camera) (s : State) : Prop extends Channels k s where
  settled : s.commands = [] → Settled k s

def MotionSeen (s : State) (e : Event) : Prop :=
  e = .detectMotion → s.server.mode = .idle →
    s.commands ≠ [] ∨ s.motion = false ∨ 0 ∈ s.frames

theorem agreeing_updateClient {k : Camera} {s : State} {client : Client} (h : Channels k s)
    (hsame : client.mode k = s.client.mode k → s.commands = [] →
      Settled k { s with client := client }) : Agreeing k (updateClient k client s) := by
  rcases eq_or_ne (client.mode k) (s.client.mode k) with hm | hm
  · have hs : updateClient k client s = { s with client := client } := by
      rw [updateClient,if_pos hm]
    rw [hs]
    exact ⟨⟨h.booted,h.frames,h.commands,fun hne => hm ▸ h.in_flight hne⟩,hsame hm⟩
  · have hs : updateClient k client s = { s with
        client := client
        commands := s.commands ++ [ServerWriter.modeByte (client.mode k)] } := by
      rw [updateClient,if_neg hm]
    rw [hs]
    refine ⟨⟨h.booted,h.frames,?_,by simp⟩,by simp⟩
    intro b hb
    rcases List.mem_append.mp hb with hb | hb
    · exact h.commands b hb
    · exact ⟨_,List.mem_singleton.mp hb⟩

theorem agreeing_click {k : Camera} {s : State} (h : Agreeing k s) (client : Client) :
    Agreeing k (updateClient k client s) := by
  refine agreeing_updateClient h.toChannels (fun hm hc => ?_)
  cases h.settled hc with
  | agreed hs => exact .agreed (hs.trans hm.symm)
  | announced hs hbit hidle hf => exact .announced hs hbit (hm.trans hidle) hf

theorem agreeing_detectMotion {k : Camera} {s : State} (h : Agreeing k s)
    (hok : MotionSeen s .detectMotion) :
    Agreeing k (updateServer (s.server.setMode .movie 1) s) := by
  obtain ⟨hboot,hmode⟩ := booted_setMode h.booted .movie 1
  refine ⟨⟨hboot,h.frames,h.commands,h.in_flight⟩,fun hc => ?_⟩
  rcases eq_or_ne s.server.mode .movie with hm | hm
  · have hs : updateServer (s.server.setMode .movie 1) s = s := by
      rw [ModeHandler.setMode_same 1 hm]
      simp [updateServer]
    rw [hs]
    exact h.settled hc
  · have hidle := Mode.eq_idle_of_ne_movie hm
    cases h.settled hc with
    | announced hs => exact absurd hs hm
    | agreed hs =>
      refine .announced hmode (setMode_motion h.booted hidle) (hs ▸ hidle) ?_
      have hunread : unread (updateServer (s.server.setMode .movie 1) s) = s.frames ++ [3] := by
        simp [unread,updateServer,hmode,hidle]
      rw [hunread]
      rcases hok rfl hidle with hne | hflag | hclear
      · exact absurd hc hne
      · change fires s.motion _ = true
        rw [hflag]
        exact fires_unflagged s.frames
      · exact fires_cleared s.motion hclear

theorem agreeing_emitFrame {k : Camera} {s : State} (h : Agreeing k s) :
    Agreeing k { s with frames := s.frames ++ [s.server.writer.headerMode], emitted := true } := by
  refine ⟨⟨h.booted,frames_emitted h.booted h.frames,h.commands,h.in_flight⟩,fun hc => ?_⟩
  cases h.settled hc with
  | agreed hs => exact .agreed hs
  | announced hs hbit hidle hf =>
    refine .announced hs hbit hidle ?_
    have hbyte := headerMode_announced h.booted hbit hs
    simp only [unread] at hf
    simp only [unread,hbyte,if_true,List.append_nil]
    split_ifs at hf
    · rw [List.append_nil] at hf
      exact fires_append hf [3]
    · exact hf

theorem mode_changeMode_movie (k : Camera) (c : Client) :
    (c.changeMode k.number .movie).mode k = .movie :=
  congrArg CameraView.mode (c.view_changeMode_movie k k)

theorem agreeing_receiveMode {k : Camera} {s : State} {newMode : UInt8} {rest : List UInt8}
    (h : Agreeing k s) (hframes : s.frames = newMode :: rest) :
    Agreeing k (receiveMode k newMode { s with frames := rest }) := by
  have hchannels : Channels k { s with
      frames := rest, motion := ServerReader.nextMotion s.motion newMode } :=
    ⟨h.booted,fun b hb => h.frames b (by simp [hframes,hb]),h.commands,h.in_flight⟩
  cases ha : ServerReader.announces s.motion newMode with
  | false =>
    simp only [receiveMode,ha]
    refine ⟨hchannels,fun hc => ?_⟩
    cases h.settled hc with
    | agreed hs => exact .agreed hs
    | announced hs hbit hidle hf =>
      refine .announced hs hbit hidle ?_
      rw [unread,hframes,List.cons_append,fires,ha,Bool.false_or] at hf
      exact hf
  | true =>
    simp only [receiveMode,ha]
    refine agreeing_updateClient hchannels (fun hm hc => ?_)
    rw [mode_changeMode_movie] at hm
    cases h.settled hc with
    | agreed hs => exact .agreed (hs.trans (hm.symm.trans (mode_changeMode_movie k _).symm))
    | announced _ _ hidle => exact absurd (hm.trans hidle) (by decide)

theorem streamListener_modeByte {server : ModeHandler Empty} (h : Booted server) (m : Mode) :
    Booted (streamListener (ServerWriter.modeByte m) server) ∧
      (streamListener (ServerWriter.modeByte m) server).mode = m := by
  cases m with
  | idle => exact booted_setMode h .idle 0
  | movie => exact booted_setMode h .movie 0

theorem agreeing_deliverCommand {k : Camera} {s : State} {command : UInt8} {rest : List UInt8}
    (h : Agreeing k s) (hcommands : s.commands = command :: rest) :
    Agreeing k { updateServer (streamListener command s.server) s with commands := rest } := by
  have hlast := h.in_flight (by simp [hcommands])
  obtain ⟨m,rfl⟩ := h.commands command (by simp [hcommands])
  obtain ⟨hboot,hmode⟩ := streamListener_modeByte h.booted m
  refine ⟨⟨hboot,h.frames,fun b hb => h.commands b (by simp [hcommands,hb]),fun hne => ?_⟩,
    fun hc => ?_⟩
  · obtain ⟨b,bs,rfl⟩ := List.exists_cons_of_ne_nil hne
    rwa [hcommands,List.getLast?_cons_cons] at hlast
  · obtain rfl : rest = [] := hc
    rw [hcommands] at hlast
    exact .agreed (hmode.trans (ServerWriter.modeByte_injective (Option.some.inj hlast)))

theorem agreeing_step {k : Camera} {s t : State} {e : Event} (h : Agreeing k s)
    (hok : MotionSeen s e) (hs : step k s e = some t) : Agreeing k t := by
  cases stepped hs with
  | click j movie => exact agreeing_click h _
  | detectMotion => exact agreeing_detectMotion h hok
  | deliverCommand hcommands => exact agreeing_deliverCommand h hcommands
  | emitFrame => exact agreeing_emitFrame h
  | deliverFrame hframes => exact agreeing_receiveMode h hframes

theorem agreeing_start (k : Camera) : Agreeing k (system k).init := by
  refine ⟨⟨⟨rfl,rfl,.inl rfl⟩,by simp [system],by simp [system],by simp [system]⟩,fun _ => .agreed ?_⟩
  cases k <;> rfl

theorem agrees_of_agreeing {k : Camera} {s : State} (h : Agreeing k s) : Agrees k s := by
  intro hc hf he
  cases h.settled hc with
  | agreed hs => exact hs.symm
  | announced _ _ _ hfires =>
    rw [unread,hf,he] at hfires
    cases hfires

def FramesOnly (e : Event) : Prop := e = .emitFrame ∨ e = .deliverFrame

def AgreesAfterFrames (k : Camera) (s : State) : Prop :=
  ∀ es t, (∀ e ∈ es, FramesOnly e) → (system k).after s es = some t → Agrees k t

theorem agreesAfterFrames_of_agreeing {k : Camera} {s : State} (h : Agreeing k s) :
    AgreesAfterFrames k s := by
  intro es
  induction es generalizing s with
  | nil =>
    intro t _ ht
    cases ht
    exact agrees_of_agreeing h
  | cons e es ih =>
    intro t hes ht
    obtain ⟨u,hu,hafter⟩ := Option.bind_eq_some_iff.mp ht
    have hquiet : MotionSeen s e := by
      rintro rfl
      rcases hes _ List.mem_cons_self with he | he <;> cases he
    exact ih (agreeing_step h hquiet hu) t (fun f hf => hes f (List.mem_cons_of_mem e hf)) hafter

theorem deliver_silent (k : Camera) (frames : List UInt8) (s : State) (hmotion : s.motion = true)
    (hframes : s.frames = frames) (hsilent : ∀ b ∈ frames, b = 1 ∨ b = 3) :
    (system k).after s (List.replicate frames.length .deliverFrame) =
      some { s with frames := [] } := by
  induction frames generalizing s with
  | nil =>
    have hs : { s with frames := [] } = s := by rw [← hframes]
    rw [hs]
    rfl
  | cons b frames ih =>
    have hkeep : ServerReader.announces true b = false ∧ ServerReader.nextMotion true b = true := by
      rcases hsilent b List.mem_cons_self with rfl | rfl <;> decide
    have hstep : (system k).step s .deliverFrame = some { s with frames := frames } := by
      simp only [system,step,hframes,receiveMode,hmotion,hkeep]
      simp [← hmotion]
    rw [List.length_cons,List.replicate_succ,Runs.System.after_cons,hstep]
    exact ih { s with frames := frames } hmotion rfl
      (fun c hc => hsilent c (List.mem_cons_of_mem b hc))

theorem emit_announced (k : Camera) (s : State) (h : s.server.writer.headerMode = 3) :
    (system k).step { s with frames := [] } .emitFrame =
      some { s with frames := [3], emitted := true } := by
  rw [← h]
  rfl

theorem disagrees_of_missed {k : Camera} {s t : State} {e : Event} (h : Agreeing k s)
    (hbad : ¬ MotionSeen s e) (hs : step k s e = some t) : ¬ AgreesAfterFrames k t := by
  simp only [MotionSeen,Classical.not_imp,not_or,ne_eq,not_not] at hbad
  obtain ⟨rfl,hidle,hc,hmotion,hclear⟩ := hbad
  cases hs
  have hclient : s.client.mode k = .idle := by
    cases h.settled hc with
    | agreed hs => exact hs.symm.trans hidle
    | announced hs => exact absurd (hs.symm.trans hidle) (by decide)
  have hflag : s.motion = true := eq_true_of_ne_false hmotion
  have hsilent : ∀ b ∈ s.frames, b = 1 ∨ b = 3 := by
    intro b hb
    rcases h.frames b hb with rfl | hb'
    · exact absurd hb hclear
    · exact hb'
  obtain ⟨hboot,hmovie⟩ := booted_setMode h.booted .movie 1
  have hbyte := headerMode_announced hboot (setMode_motion h.booted hidle) hmovie
  have hdrained := deliver_silent k s.frames (updateServer (s.server.setMode .movie 1) s) hflag rfl
    hsilent
  have hemit := emit_announced k (updateServer (s.server.setMode .movie 1) s) hbyte
  have hlast := deliver_silent k [3] { updateServer (s.server.setMode .movie 1) s with
    frames := [3], emitted := true } hflag rfl (by simp)
  have hafter : (system k).after (updateServer (s.server.setMode .movie 1) s)
      (List.replicate s.frames.length .deliverFrame ++ [.emitFrame,.deliverFrame]) =
        some { updateServer (s.server.setMode .movie 1) s with frames := [], emitted := true } := by
    rw [Runs.System.after_append,hdrained,Option.bind_some,Runs.System.after_cons,hemit]
    exact hlast
  have hframesOnly : ∀ e ∈ List.replicate s.frames.length Event.deliverFrame ++
      [.emitFrame,.deliverFrame], FramesOnly e := by
    intro e he
    rcases List.mem_append.mp he with he | he
    · exact .inr (List.eq_of_mem_replicate he)
    · simpa [FramesOnly] using he
  intro hagree
  have hbroken : s.client.mode k = (s.server.setMode .movie 1).mode :=
    hagree _ _ hframesOnly hafter hc rfl rfl
  rw [hclient,hmovie] at hbroken
  cases hbroken

theorem modes_agree_iff (k : Camera) (events : List Event) (s : State)
    (hrun : (system k).run events = some s) :
    ((system k).Meets MotionSeen events → (system k).Always (Agrees k) events) ∧
    ((system k).Always (AgreesAfterFrames k) events ↔ (system k).Meets MotionSeen events) := by
  have hiff := (system k).always_iff_meets (agreeing_start k) (fun _ _ _ => agreeing_step)
    (fun _ => agreesAfterFrames_of_agreeing) (fun _ _ _ => disagrees_of_missed) hrun
  exact ⟨fun hm p t hp ht => hiff.mpr hm p t hp ht [] t (by simp) rfl,hiff⟩

def clickThenMotion : List Event :=
  [.click .one true,.deliverCommand,.click .one false,.deliverCommand,.detectMotion,.emitFrame,
    .deliverFrame,.deliverCommand]

theorem modes_agree_iff_clickThenMotion :
    ((system .one).Meets MotionSeen clickThenMotion →
      (system .one).Always (Agrees .one) clickThenMotion) ∧
    ((system .one).Always (AgreesAfterFrames .one) clickThenMotion ↔
      (system .one).Meets MotionSeen clickThenMotion) :=
  modes_agree_iff .one clickThenMotion _ rfl

def motionAfterClick : List Event :=
  [.detectMotion,.emitFrame,.deliverFrame,.deliverCommand,.click .one false,.deliverCommand,
    .detectMotion,.emitFrame,.deliverFrame]

theorem second_motion_missed :
    ¬ ∀ (k : Camera) (events : List Event) (s : State), (system k).run events = some s →
      Agrees k s := by
  intro h
  have hagree := h .one motionAfterClick _ rfl
  exact absurd (hagree (by decide) (by decide) (by decide)) (by decide)

end VideoSurveillance.ModeAgreement
