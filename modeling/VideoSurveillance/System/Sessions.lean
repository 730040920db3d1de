import VideoSurveillance.Server.SocketListener
import VideoSurveillance.System.ModeAgreement

namespace VideoSurveillance.Sessions

structure Server where
  modes : ModeHandler Empty
  connected : Bool
  deriving DecidableEq

inductive Event where
  | accept
  | command (received : UInt8)
  | detectMotion
  | closeConnection
  deriving DecidableEq

def step (s : Server) : Event → Option Server
  | .accept => if s.connected then none else some { s with connected := true }
  | .command received =>
    if s.connected then some { s with modes := ModeAgreement.streamListener received s.modes }
    else none
  | .detectMotion => some { s with modes := s.modes.setMode .movie 1 }
  | .closeConnection => if s.connected then some { s with connected := false } else none

def system : Runs.System Server Event where
  init := ⟨ModeAgreement.booted,false⟩
  step := step

def freshSession (server : Server) (client : Client) : ModeAgreement.State where
  server := server.modes
  client := client
  motion := false
  commands := []
  frames := []
  emitted := false

theorem booted_run {history : List Event} {server : Server}
    (hrun : system.run history = some server) : ModeAgreement.Booted server.modes := by
  refine system.invariant (I := fun s => ModeAgreement.Booted s.modes) ⟨rfl,rfl,.inl rfl⟩ ?_ hrun
  intro s e t h hs
  cases e with
  | accept =>
    simp only [system,step] at hs
    split_ifs at hs
    cases hs
    exact h
  | command received =>
    simp only [system,step] at hs
    split_ifs at hs
    cases hs
    exact ModeAgreement.booted_streamListener h received
  | detectMotion =>
    cases hs
    exact (ModeAgreement.booted_setMode h .movie 1).1
  | closeConnection =>
    simp only [system,step] at hs
    split_ifs at hs
    cases hs
    exact h

theorem setModeCalls_streamListener (received : UInt8) (modes : ModeHandler Empty) :
    (SocketListener.setModeCalls received).foldl (fun modes call => modes.setMode call.1 call.2) modes =
      ModeAgreement.streamListener received modes := by
  unfold SocketListener.setModeCalls ModeAgreement.streamListener
  split_ifs <;> rfl

theorem commands_streamListener (outcomes : List SocketListener.Outcome) (modes : ModeHandler Empty) :
    (SocketListener.expectedCalls outcomes).foldl (fun modes call => modes.setMode call.1 call.2) modes =
      outcomes.foldl (fun modes o => ModeAgreement.streamListener o.readBuffer modes) modes := by
  induction outcomes generalizing modes with
  | nil => rfl
  | cons o outcomes ih =>
    rw [SocketListener.expectedCalls_cons,List.foldl_append,ih,← SocketListener.setModeCalls_expected,
      setModeCalls_streamListener]
    rfl

structure Heard (k : Camera) (modes : ModeHandler Empty) (heard : Bool)
    (t : ModeAgreement.State) : Prop where
  server : t.server = modes
  frames : ∀ b ∈ t.frames, b = modes.writer.headerMode
  motion : t.motion = (heard && decide (modes.writer.headerMode = 3))
  mode : t.client.mode k = if heard ∧ modes.writer.headerMode = 3 then .movie else .idle

theorem heard_emitFrame {k : Camera} {modes : ModeHandler Empty} {heard : Bool}
    {s : ModeAgreement.State} (h : Heard k modes heard s) :
    Heard k modes heard { s with
      frames := s.frames ++ [s.server.writer.headerMode], emitted := true } := by
  refine ⟨h.server,?_,h.motion,h.mode⟩
  intro b hb
  rcases List.mem_append.mp hb with hb | hb
  · exact h.frames b hb
  · rw [List.mem_singleton.mp hb,h.server]

theorem heard_silent {k : Camera} {modes : ModeHandler Empty} {heard : Bool}
    {s : ModeAgreement.State} {newMode : UInt8} {rest : List UInt8} (h : Heard k modes heard s)
    (hframes : s.frames = newMode :: rest) (hquiet : ServerReader.announces s.motion newMode = false)
    (hkeep : ServerReader.nextMotion s.motion newMode = s.motion)
    (hsame : heard = true ∨ modes.writer.headerMode ≠ 3) :
    Heard k modes true (ModeAgreement.receiveMode k newMode { s with frames := rest }) := by
  have hreceive : ModeAgreement.receiveMode k newMode { s with frames := rest } =
      { s with frames := rest } := by
    simp only [ModeAgreement.receiveMode,hquiet,hkeep]
    rfl
  have hmotion := h.motion
  have hmode := h.mode
  rw [hreceive]
  refine ⟨h.server,fun b hb => h.frames b (by simp [hframes,hb]),?_,?_⟩
  · rcases hsame with rfl | hne
    · exact hmotion
    · simpa [hne] using hmotion
  · rcases hsame with rfl | hne
    · exact hmode
    · simpa [hne] using hmode

theorem heard_deliverFrame {k : Camera} {modes : ModeHandler Empty} {heard : Bool}
    {s : ModeAgreement.State} {newMode : UInt8} {rest : List UInt8}
    (hboot : ModeAgreement.Booted modes) (h : Heard k modes heard s)
    (hframes : s.frames = newMode :: rest) :
    Heard k modes true (ModeAgreement.receiveMode k newMode { s with frames := rest }) := by
  have hbyte : newMode = modes.writer.headerMode := h.frames newMode (by simp [hframes])
  have hmotion := h.motion
  rcases eq_or_ne modes.writer.headerMode 3 with h3 | h3
  · rw [h3] at hbyte
    subst hbyte
    cases heard with
    | true =>
      have hset : s.motion = true := by simpa [h3] using hmotion
      exact heard_silent h hframes (by rw [hset]; decide) (by rw [hset]; decide) (.inl rfl)
    | false =>
      have hclear : s.motion = false := by simpa using hmotion
      have hreceive : ModeAgreement.receiveMode k 3 { s with frames := rest } =
          ModeAgreement.updateClient k (s.client.changeMode k.number .movie)
            { s with frames := rest, motion := true } := by
        simp only [ModeAgreement.receiveMode,hclear]
        rfl
      rw [hreceive]
      refine ⟨h.server,fun b hb => h.frames b (by simp [hframes] at hb ⊢; exact .inr hb),?_,?_⟩
      · simp [ModeAgreement.updateClient,h3]
      · rw [if_pos ⟨rfl,h3⟩]
        exact ModeAgreement.mode_changeMode_movie k s.client
  · have hclear : s.motion = false := by simpa [h3] using hmotion
    have hsilent : ServerReader.announces false newMode = false ∧
        ServerReader.nextMotion false newMode = false := by
      rcases ModeAgreement.headerMode_booted hboot with h0 | h1 | h3'
      · rw [hbyte,h0]
        decide
      · rw [hbyte,h1]
        decide
      · exact absurd h3' h3
    exact heard_silent h hframes (by rw [hclear]; exact hsilent.1)
      (by rw [hclear]; exact hsilent.2) (.inr h3)

theorem heard_after {k : Camera} {modes : ModeHandler Empty} (hboot : ModeAgreement.Booted modes)
    {es : List ModeAgreement.Event} {heard : Bool} {s t : ModeAgreement.State}
    (h : Heard k modes heard s) (hes : ∀ e ∈ es, ModeAgreement.FramesOnly e)
    (hafter : (ModeAgreement.system k).after s es = some t) :
    Heard k modes (heard || decide (.deliverFrame ∈ es)) t := by
  induction es generalizing heard s with
  | nil =>
    cases hafter
    simpa using h
  | cons e es ih =>
    obtain ⟨u,hu,hafter⟩ := Option.bind_eq_some_iff.mp hafter
    have hrest := fun f hf => hes f (List.mem_cons_of_mem e hf)
    rcases hes e List.mem_cons_self with rfl | rfl
    · cases hu
      simpa using ih (heard_emitFrame h) hrest hafter
    · simp only [ModeAgreement.system,ModeAgreement.step] at hu
      split at hu
      · cases hu
      · next newMode rest hframes =>
        cases hu
        simpa using ih (heard_deliverFrame hboot h hframes) hrest hafter

theorem headerMode_agrees {modes : ModeHandler Empty} (h : ModeAgreement.Booted modes) :
    (if modes.writer.headerMode = 3 then Mode.movie else Mode.idle) = modes.mode ↔
      modes.mode = .idle ∨ modes.writer.motionBit = 2 := by
  rw [SocketWriter.headerMode,h.mode]
  rcases h.motionBit with hbit | ⟨hbit,hmode⟩
  · rw [hbit]
    cases modes.mode <;> decide
  · rw [hbit,hmode]
    decide

theorem fresh_session_agrees_iff (k : Camera) (history : List Event) (server : Server)
    (client : Client) (es : List ModeAgreement.Event) (t : ModeAgreement.State)
    (hrun : system.run history = some server) (hfresh : client.mode k = .idle)
    (hes : ∀ e ∈ es, ModeAgreement.FramesOnly e) (hframe : .deliverFrame ∈ es)
    (hafter : (ModeAgreement.system k).after (freshSession server client) es = some t) :
    t.client.mode k = t.server.mode ↔
      server.modes.mode = .idle ∨ server.modes.writer.motionBit = 2 := by
  have hboot := booted_run hrun
  have hstart : Heard k server.modes false (freshSession server client) :=
    ⟨rfl,by simp [freshSession],rfl,by simpa [freshSession] using hfresh⟩
  have h := heard_after hboot hstart hes hafter
  rw [h.mode,h.server,← headerMode_agrees hboot]
  simp [hframe]

def motionThenReconnect : List Event := [.accept,.detectMotion,.closeConnection,.accept]

def afterMotion : Server := ⟨ModeAgreement.booted.setMode .movie 1,true⟩

theorem fresh_session_agrees_iff_motionThenReconnect :
    ∃ t, (ModeAgreement.system .two).after (freshSession afterMotion .start)
        [.emitFrame,.emitFrame,.deliverFrame] = some t ∧
      (t.client.mode .two = t.server.mode ↔
        afterMotion.modes.mode = .idle ∨ afterMotion.modes.writer.motionBit = 2) :=
  ⟨_,rfl,fresh_session_agrees_iff .two motionThenReconnect afterMotion .start
    [.emitFrame,.emitFrame,.deliverFrame] _ rfl rfl (by simp [ModeAgreement.FramesOnly]) (by decide)
    rfl⟩

theorem commanded_movie_missed :
    ¬ ∀ (k : Camera) (history : List Event) (server : Server) (es : List ModeAgreement.Event)
      (t : ModeAgreement.State), system.run history = some server →
        (∀ e ∈ es, ModeAgreement.FramesOnly e) → .deliverFrame ∈ es →
        (ModeAgreement.system k).after (freshSession server .start) es = some t →
        t.client.mode k = t.server.mode := by
  intro h
  have hagree := h .one [.accept,.command 0x31,.closeConnection,.accept] _
    [.emitFrame,.deliverFrame] _ rfl (by simp [ModeAgreement.FramesOnly]) (by decide) rfl
  exact absurd hagree (by decide)

end VideoSurveillance.Sessions
