import VideoSurveillance.Server.SessionEnd

namespace VideoSurveillance.CameraServer
open Sockets (State Connection ClientGone)

inductive Writer where
  | stream
  | web
  deriving DecidableEq

-- SIGPIPE has no handler: a write() to a client that is gone may kill the process
inductive Ending where
  | sigpipe (writer : Writer)
  | exitFailure
  deriving DecidableEq

structure Process where
  sockets : State
  gone : List Connection
  ending : Option Ending
  deriving DecidableEq

inductive Event where
  | returns (e : Sockets.Event)
  | hangUp (c : Connection)
  | sigpipe (writer : Writer)
  | openSocketFails
  deriving DecidableEq

def writesTo (s : State) : Writer → Option ℕ
  | .stream =>
    match s.stream with
    | .writing streamSocket (_ :: _) => some streamSocket
    | _ => none
  | .web =>
    match s.web with
    | .serving newsockfd => some newsockfd
    | .accepting => none

def peer (s : State) (writer : Writer) : Option Connection :=
  (writesTo s writer).bind s.table.lookup

def isClient : Connection → Bool
  | .stream _ => true
  | .web => true
  | _ => false

-- the next web client is another one
def stillGone (e : Sockets.Event) (gone : List Connection) : List Connection :=
  if e = .web .accept then gone.filter (fun c => c ≠ .web) else gone

def live (p : Process) : Event → Option Process
  | .returns e => (Sockets.step p.sockets e).map (fun s =>
      { p with sockets := s, gone := stillGone e p.gone })
  | .hangUp c =>
    if isClient c ∧ some c ∈ p.sockets.table.slots then some { p with gone := c :: p.gone }
    else none
  | .sigpipe writer =>
    if ∃ c ∈ p.gone, peer p.sockets writer = some c then
      some { p with ending := some (.sigpipe writer) }
    else none
  | .openSocketFails =>
    if p.sockets.stream = .opening then some { p with ending := some .exitFailure } else none

def step (p : Process) (e : Event) : Option Process :=
  if p.ending = none then live p e else none

def system : Runs.System Process Event where
  init := ⟨Sockets.start,[],none⟩
  step := step

def returned : Event → Option Sockets.Event
  | .returns e => some e
  | _ => none

def calls (events : List Event) : List Sockets.Event := events.filterMap returned

inductive Stepped (p : Process) : Event → Process → Prop
  | returns {e : Sockets.Event} {s : State} : Sockets.step p.sockets e = some s →
      Stepped p (.returns e) { p with sockets := s, gone := stillGone e p.gone }
  | hangsUp {c : Connection} : isClient c → Stepped p (.hangUp c) { p with gone := c :: p.gone }
  | killed {writer : Writer} {c : Connection} : c ∈ p.gone → peer p.sockets writer = some c →
      Stepped p (.sigpipe writer) { p with ending := some (.sigpipe writer) }
  | exits : p.sockets.stream = .opening →
      Stepped p .openSocketFails { p with ending := some .exitFailure }

theorem stepped {p q : Process} {e : Event} (h : step p e = some q) :
    p.ending = none ∧ Stepped p e q := by
  unfold step at h
  split_ifs at h with hlive
  refine ⟨hlive,?_⟩
  cases e with
  | returns e =>
    obtain ⟨s,hs,rfl⟩ := Option.map_eq_some_iff.mp h
    exact .returns hs
  | hangUp c =>
    simp only [live] at h
    split_ifs at h with hc
    cases h
    exact .hangsUp hc.1
  | sigpipe writer =>
    simp only [live] at h
    split_ifs at h with hc
    obtain ⟨c,hgone,hpeer⟩ := hc
    cases h
    exact .killed hgone hpeer
  | openSocketFails =>
    simp only [live] at h
    split_ifs at h with hopening
    cases h
    exact .exits hopening

theorem step_returns {p : Process} (hlive : p.ending = none) {e : Sockets.Event}
    (h : (Sockets.step p.sockets e).isSome) : (step p (.returns e)).isSome := by
  rw [step,if_pos hlive,live,Option.isSome_map]
  exact h

theorem calls_after {p q : Process} {es : List Event} (h : system.after p es = some q) :
    Sockets.system.after p.sockets (calls es) = some q.sockets := by
  refine system.after_filterMap (N := Sockets.system) (f := Process.sockets) ?_ ?_ h
  · intro p e q e' he hstep
    obtain ⟨-,hstepped⟩ := stepped hstep
    cases hstepped with
    | returns hs =>
      cases he
      exact hs
    | hangsUp | killed | exits => cases he
  · intro p e q he hstep
    obtain ⟨-,hstepped⟩ := stepped hstep
    cases hstepped with
    | returns => cases he
    | hangsUp | killed | exits => rfl

def Used (s : State) (n : ℕ) : Prop :=
  s.streamSocket = some n ∨ ∃ left, s.stream = .writing n left

-- what the stream thread writes to is never a listening socket or a standard descriptor
def Apart (s : State) : Prop := ∀ n, Used s n → 3 < n ∧ s.jpegSocket ≠ some n

theorem apart_moved {s t : State} (h : Apart s) (hused : ∀ n, Used t n → Used s n)
    (hjpeg : t.jpegSocket = s.jpegSocket ∨ t.jpegSocket = none) : Apart t := by
  intro n hn
  obtain ⟨hlow,hne⟩ := h n (hused n hn)
  rcases hjpeg with hjpeg | hjpeg <;> rw [hjpeg]
  · exact ⟨hlow,hne⟩
  · exact ⟨hlow,by simp⟩

theorem apart_atLoop {s t : State} (h : Apart s) (hloop : Sockets.AtLoop t)
    (hsocket : t.streamSocket = s.streamSocket)
    (hjpeg : t.jpegSocket = s.jpegSocket ∨ t.jpegSocket = none) : Apart t := by
  refine apart_moved h ?_ hjpeg
  rintro n (hn | ⟨left,hn⟩)
  · exact .inl (hsocket ▸ hn)
  · exact absurd hn (hloop n left)

theorem lowestFree_apart {s : State} (h : Sockets.Accounted s) :
    3 < s.table.lowestFree ∧ s.jpegSocket ≠ some s.table.lowestFree := by
  have hfree : ∀ c, ¬ Sockets.Owner s s.table.lowestFree c := by
    intro c hc
    cases s.table.lookup_lowestFree.symm.trans ((h _ c).mpr hc)
  have hstandard : ¬ s.table.lowestFree < 3 := hfree .standard
  have hweb : ¬ s.table.lowestFree = 3 := hfree .webSocket
  exact ⟨by omega,hfree .jpegSocket⟩

theorem apart_stream {s t : State} {e : Sockets.StreamEvent} (hs : Sockets.Sound s) (h : Apart s)
    (hstep : Sockets.streamStep s e = some t) : Apart t := by
  cases e with
  | openJpegSocket =>
    simp only [Sockets.streamStep] at hstep
    split at hstep
    · next hp =>
      cases hstep
      have hsocket := (Sockets.outside_loop hs.phase (.inl hp)).1
      intro n hn
      simp [Used,hsocket] at hn
    · cases hstep
  | accept =>
    simp only [Sockets.streamStep] at hstep
    split at hstep
    · cases hstep
      rintro n (hn | ⟨left,hn⟩)
      · cases hn
        exact lowestFree_apart hs.accounted
      · cases hn
    · cases hstep
  | captureFrame writer timeUnix data =>
    simp only [Sockets.streamStep] at hstep
    split at hstep
    · next hsocket =>
      cases hstep
      refine apart_moved h ?_ (.inl rfl)
      rintro n (hn | ⟨left,hn⟩)
      · exact .inl hn
      · cases hn
        exact .inl hsocket
    · cases hstep
  | write =>
    simp only [Sockets.streamStep] at hstep
    split at hstep
    · next fd data left hp =>
      cases hstep
      obtain ⟨deliveries,hd⟩ := Sockets.deliver_cases fd data s
      rw [hd]
      refine apart_moved h ?_ (.inl rfl)
      rintro n (hn | ⟨rest,hn⟩)
      · exact .inl hn
      · cases hn
        exact .inr ⟨_,hp⟩
    · cases hstep
  | closeJpegSocket =>
    simp only [Sockets.streamStep] at hstep
    split at hstep <;> cases hstep
    exact apart_atLoop h (by simp [Sockets.AtLoop]) rfl (.inr rfl)
  | createListener | endFrame | leaveLoop =>
    simp only [Sockets.streamStep] at hstep
    split at hstep <;> cases hstep
    exact apart_atLoop h (by simp [Sockets.AtLoop]) rfl (.inl rfl)

theorem apart_listener {i : ℕ} {s t : State} {e : Sockets.ListenerEvent} (h : Apart s)
    (hstep : Sockets.listenerStep i s e = some t) : Apart t := by
  cases e with
  | start =>
    simp only [Sockets.listenerStep] at hstep
    split at hstep <;> cases hstep <;> exact h
  | read jibberish =>
    simp only [Sockets.listenerStep] at hstep
    split at hstep
    · cases hstep
      simp only [Sockets.readCommand]
      split_ifs <;> exact h
    · cases hstep
      exact h
    · cases hstep
  | storeInactive =>
    simp only [Sockets.listenerStep] at hstep
    split at hstep
    · cases hstep
      refine apart_moved h ?_ (.inl rfl)
      rintro n (hn | hn)
      · cases hn
      · exact .inr hn
    · cases hstep

structure Kept (s : State) : Prop extends Sockets.Settled s where
  apart : Apart s

theorem kept_step {s t : State} {e : Sockets.Event} (h : Kept s)
    (hstep : Sockets.step s e = some t) : Kept t := by
  refine ⟨Sockets.settled_step h.toSettled hstep,?_⟩
  cases e with
  | stream e => exact apart_stream h.toSound h.apart hstep
  | listener i e => exact apart_listener h.apart hstep
  | web e =>
    cases e with
    | accept | close =>
      simp only [Sockets.step,Sockets.webStep] at hstep
      split at hstep <;> cases hstep
      exact h.apart

theorem kept_start : Kept Sockets.start := by
  refine ⟨Sockets.settled_start,?_⟩
  rintro n (hn | ⟨left,hn⟩) <;> cases hn

theorem session_kept {s t : State} {e : Sockets.Event} (h : ClientGone e)
    (hstep : Sockets.step s e = some t) : t.session = s.session := by
  cases e with
  | stream e =>
    cases e with
    | accept => exact h.elim
    | write =>
      simp only [Sockets.step,Sockets.streamStep] at hstep
      split at hstep
      · next fd data left _ =>
        cases hstep
        obtain ⟨deliveries,hd⟩ := Sockets.deliver_cases fd data s
        rw [hd]
      · cases hstep
    | openJpegSocket | createListener | captureFrame | endFrame | leaveLoop | closeJpegSocket =>
      simp only [Sockets.step,Sockets.streamStep] at hstep
      split at hstep <;> cases hstep
      rfl
  | listener i e =>
    cases e with
    | start | storeInactive =>
      simp only [Sockets.step,Sockets.listenerStep] at hstep
      split at hstep <;> cases hstep <;> rfl
    | read jibberish =>
      simp only [Sockets.step,Sockets.listenerStep] at hstep
      split at hstep
      · cases hstep
        simp only [Sockets.readCommand]
        split_ifs <;> rfl
      · cases hstep
        rfl
      · cases hstep
  | web e =>
    cases e with
    | accept | close =>
      simp only [Sockets.step,Sockets.webStep] at hstep
      split at hstep <;> cases hstep
      rfl

theorem peer_stream {s : State} (h : Kept s) {c : Connection} (hc : peer s .stream = some c) :
    c = .web ∨ c = .stream s.session ∧ s.streamSocket = writesTo s .stream ∧
      .closed ∉ s.listeners := by
  obtain ⟨n,hn,hlookup⟩ := Option.bind_eq_some_iff.mp hc
  have hused : Used s n := by
    simp only [writesTo] at hn
    split at hn
    · next fd data left hp =>
      cases hn
      exact .inr ⟨_,hp⟩
    · cases hn
  obtain ⟨hlow,hjpeg⟩ := h.apart n hused
  have howner := (h.accounted n c).mp hlookup
  cases c with
  | web => exact .inl rfl
  | stream k =>
    obtain ⟨rfl,hsocket,hclosed⟩ := howner
    exact .inr ⟨rfl,hsocket.trans hn.symm,hclosed⟩
  | standard =>
    have hlt : n < 3 := howner
    omega
  | webSocket =>
    have heq : n = 3 := howner
    omega
  | jpegSocket => exact absurd howner hjpeg

theorem peer_web {s : State} (h : Kept s) {c : Connection} (hc : peer s .web = some c) :
    c = .web := by
  obtain ⟨n,hn,hlookup⟩ := Option.bind_eq_some_iff.mp hc
  have hserving : Sockets.Owner s n .web := by
    simp only [writesTo] at hn
    split at hn
    · next newsockfd hp =>
      cases hn
      exact hp
    · cases hn
  exact h.accounted.unique ((h.accounted n c).mp hlookup) hserving

def Fatal (p : Process) : Ending → Prop
  | .sigpipe .stream =>
    .stream p.sockets.session ∈ p.gone ∧ peer p.sockets .stream = some (.stream p.sockets.session) ∧
        p.sockets.streamSocket = writesTo p.sockets .stream ∧ .closed ∉ p.sockets.listeners ∨
      .web ∈ p.gone ∧ peer p.sockets .stream = some .web
  | .sigpipe .web => .web ∈ p.gone ∧ peer p.sockets .web = some .web
  | .exitFailure => p.sockets.stream = .opening ∧ p.sockets.streamSocket = none

theorem fatal_killed {p : Process} (h : Kept p.sockets) {writer : Writer} {c : Connection}
    (hgone : c ∈ p.gone) (hc : peer p.sockets writer = some c) : Fatal p (.sigpipe writer) := by
  cases writer with
  | stream =>
    rcases peer_stream h hc with rfl | ⟨rfl,hsocket,hclosed⟩
    · exact .inr ⟨hgone,hc⟩
    · exact .inl ⟨hgone,hc,hsocket,hclosed⟩
  | web =>
    obtain rfl := peer_web h hc
    exact ⟨hgone,hc⟩

structure Accountable (p : Process) : Prop where
  kept : Kept p.sockets
  fatal : ∀ ending, p.ending = some ending → Fatal p ending

theorem accountable_live {p : Process} (h : Kept p.sockets) (hlive : p.ending = none) :
    Accountable p := by
  refine ⟨h,fun ending hending => ?_⟩
  cases hlive.symm.trans hending

theorem accountable_step {p q : Process} {e : Event} (h : Accountable p)
    (hstep : step p e = some q) : Accountable q := by
  obtain ⟨hlive,hstepped⟩ := stepped hstep
  cases hstepped with
  | returns hs => exact accountable_live (kept_step h.kept hs) hlive
  | hangsUp => exact accountable_live h.kept hlive
  | killed hgone hpeer =>
    refine ⟨h.kept,fun ending hending => ?_⟩
    cases hending
    exact fatal_killed h.kept hgone hpeer
  | exits hopening =>
    refine ⟨h.kept,fun ending hending => ?_⟩
    cases hending
    exact ⟨hopening,(Sockets.outside_loop h.kept.phase (.inl hopening)).1⟩

theorem accountable_run {events : List Event} {p : Process} (hrun : system.run events = some p) :
    Accountable p :=
  system.invariant (accountable_live kept_start rfl) (fun _ _ _ => accountable_step) hrun

theorem gone_step {p q : Process} {e : Event} (hquiet : ∀ s ∈ returned e, ClientGone s)
    (hgone : .stream p.sockets.session ∈ p.gone) (hstep : step p e = some q) :
    .stream q.sockets.session ∈ q.gone := by
  obtain ⟨-,hstepped⟩ := stepped hstep
  cases hstepped with
  | @returns e s hs =>
    have hkept : (Connection.stream p.sockets.session) ∈ stillGone e p.gone := by
      rw [stillGone]
      split_ifs
      · exact List.mem_filter.mpr ⟨hgone,by simp⟩
      · exact hgone
    rw [session_kept (hquiet e rfl) hs]
    exact hkept
  | hangsUp => exact List.mem_cons_of_mem _ hgone
  | killed | exits => exact hgone

theorem gone_after {p q : Process} {later : List Event} (hquiet : ∀ e ∈ calls later, ClientGone e)
    (hgone : .stream p.sockets.session ∈ p.gone) (hafter : system.after p later = some q) :
    .stream q.sockets.session ∈ q.gone := by
  induction later generalizing p with
  | nil =>
    cases hafter
    exact hgone
  | cons e later ih =>
    obtain ⟨u,hu,hrest⟩ := Option.bind_eq_some_iff.mp hafter
    refine ih (fun s hs => hquiet s ?_) (gone_step (fun s hs => hquiet s ?_) hgone hu) hrest
    · obtain ⟨f,hf,hs⟩ := List.mem_filterMap.mp hs
      exact List.mem_filterMap.mpr ⟨f,List.mem_cons_of_mem e hf,hs⟩
    · exact List.mem_filterMap.mpr ⟨e,List.mem_cons_self,hs⟩

-- the calls of the step come back even if no client sends, reads or connects any more
def Returns (p : Process) : Sockets.Event → Prop
  | .stream .accept => False
  | .stream .write => ∀ c, peer p.sockets .stream = some c → c ∈ p.gone
  | .listener _ (.read _) => .stream p.sockets.session ∈ p.gone
  | .web .accept => False
  | .web .close => ∀ c, peer p.sockets .web = some c → c ∈ p.gone
  | _ => True

structure Ready (p : Process) (e : Sockets.Event) : Prop where
  quiet : ClientGone e
  returns : Returns p e
  enabled : (system.step p (.returns e)).isSome

theorem listener_returns {p : Process} (hgone : .stream p.sockets.session ∈ p.gone) (i : ℕ)
    (e : Sockets.ListenerEvent) : Returns p (.listener i e) := by
  cases e with
  | read jibberish => exact hgone
  | start | storeInactive => trivial

theorem stream_returns {p : Process} (h : Kept p.sockets)
    (hgone : .stream p.sockets.session ∈ p.gone)
    (hweb : peer p.sockets .stream = some .web → .web ∈ p.gone) {e : Sockets.StreamEvent}
    (hquiet : ClientGone (.stream e)) : Returns p (.stream e) := by
  cases e with
  | accept => exact hquiet.elim
  | write =>
    intro c hc
    rcases peer_stream h hc with rfl | ⟨rfl,-⟩
    · exact hweb hc
    · exact hgone
  | openJpegSocket | createListener | captureFrame | endFrame | leaveLoop | closeJpegSocket =>
    trivial

structure LostClient (p : Process) (later : List Event) (q : Process) : Prop where
  ends : Sockets.Ends p.sockets (calls later) q.sockets
  listener_ready : q.ending = none → q.sockets.streamSocket ≠ none → q.sockets.stream ≠ .creating →
    ∃ i e, Ready q (.listener i e)
  stream_ready : q.ending = none →
    q.sockets.stream = .creating ∨ q.sockets.streamSocket = none ∧ q.sockets.stream ≠ .accepting →
    (peer q.sockets .stream = some .web → .web ∈ q.gone) → ∃ e, Ready q (.stream e)
  fatal : ∀ ending, q.ending = some ending → Fatal q ending

def gone : List Event :=
  [.returns (.stream .accept),.returns (.stream .createListener),
    .returns (.stream (.captureFrame .start 0 [])),.returns (.listener 0 .start),
    .hangUp (.stream 1)]

def goneLater : List Event :=
  List.replicate 11 (.returns (.listener 0 (.read true))) ++
    [.returns (.web .accept),.returns (.listener 0 .storeInactive)]

end VideoSurveillance.CameraServer
