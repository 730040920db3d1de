import VideoSurveillance.Library.LowestFree
import VideoSurveillance.Library.Runs
import VideoSurveillance.Server.SocketWriter

namespace VideoSurveillance.Sockets

inductive Connection where
  | standard
  | jpegSocket
  | webSocket
  | stream (session : ℕ)
  | web
  deriving DecidableEq

def JIBBERISH_TOLERANCE : ℕ := 10

inductive StreamCallback where
  | opening
  | accepting
  | creating
  | checking
  | writing (streamSocket : ℕ) (left : List (List UInt8))
  | closing
  deriving DecidableEq

inductive StreamListener where
  | starting
  | reading (streamSocket : ℕ) (nothingCount : ℕ)
  | closed
  | finished
  deriving DecidableEq

inductive WebCallback where
  | accepting
  | serving (newsockfd : ℕ)
  deriving DecidableEq

structure Delivery where
  session : ℕ
  connection : Connection
  data : List UInt8
  deriving DecidableEq

structure State where
  table : LowestFree.Table Connection
  jpegSocket : Option ℕ
  streamSocket : Option ℕ
  session : ℕ
  stream : StreamCallback
  listeners : List StreamListener
  web : WebCallback
  deliveries : List Delivery
  deriving DecidableEq

inductive StreamEvent where
  | openJpegSocket
  | accept
  | createListener
  | captureFrame (writer : SocketWriter) (timeUnix : UInt64) (data : List UInt8)
  | write
  | endFrame
  | leaveLoop
  | closeJpegSocket
  deriving DecidableEq

inductive ListenerEvent where
  | start
  | read (jibberish : Bool)
  | storeInactive
  deriving DecidableEq

inductive WebEvent where
  | accept
  | close
  deriving DecidableEq

inductive Event where
  | stream (e : StreamEvent)
  | listener (i : ℕ) (e : ListenerEvent)
  | web (e : WebEvent)
  deriving DecidableEq

def deliver (fd : ℕ) (data : List UInt8) (s : State) : State :=
  match s.table.lookup fd with
  | some connection => { s with deliveries := s.deliveries ++ [⟨s.session,connection,data⟩] }
  | none => s

def streamStep (s : State) : StreamEvent → Option State
  | .openJpegSocket =>
    match s.stream with
    | .opening => some { s with
        stream := .accepting
        jpegSocket := some s.table.lowestFree
        table := s.table.install .jpegSocket }
    | _ => none
  | .accept =>
    match s.stream with
    | .accepting => some { s with
        stream := .creating
        session := s.session + 1
        streamSocket := some s.table.lowestFree
        table := s.table.install (.stream (s.session + 1)) }
    | _ => none
  | .createListener =>
    match s.stream with
    | .creating => some { s with stream := .checking, listeners := s.listeners ++ [.starting] }
    | _ => none
  | .captureFrame writer timeUnix data =>
    match s.stream, s.streamSocket with
    | .checking, some fd =>
      some { s with stream := .writing fd (writer.captureAndOutputSocket timeUnix data) }
    | _, _ => none
  | .write =>
    match s.stream with
    | .writing fd (data :: left) => some { deliver fd data s with stream := .writing fd left }
    | _ => none
  | .endFrame =>
    match s.stream with
    | .writing _ [] => some { s with stream := .checking }
    | _ => none
  | .leaveLoop =>
    match s.stream, s.streamSocket with
    | .checking, none => some { s with stream := .closing }
    | _, _ => none
  | .closeJpegSocket =>
    match s.stream, s.jpegSocket with
    | .closing, some fd => some { s with
        stream := .opening
        jpegSocket := none
        table := s.table.close fd }
    | _, _ => none

def setListener (i : ℕ) (l : StreamListener) (s : State) : State :=
  { s with listeners := s.listeners.set i l }

def readCommand (i : ℕ) (jibberish : Bool) (fd nothingCount : ℕ) (s : State) : State :=
  let nothingCount := if jibberish then nothingCount + 1 else nothingCount
  if nothingCount > JIBBERISH_TOLERANCE then
    { setListener i .closed s with table := s.table.close fd }
  else setListener i (.reading fd nothingCount) s

def listenerStep (i : ℕ) (s : State) : ListenerEvent → Option State
  | .start =>
    match s.listeners[i]?, s.streamSocket with
    | some .starting, some fd => some (setListener i (.reading fd 0) s)
    | some .starting, none => some (setListener i .finished s)
    | _, _ => none
  | .read jibberish =>
    match s.listeners[i]?, s.jpegSocket with
    | some (.reading fd nothingCount), some _ => some (readCommand i jibberish fd nothingCount s)
    | some (.reading _ _), none => some (setListener i .finished s)
    | _, _ => none
  | .storeInactive =>
    match s.listeners[i]? with
    | some .closed => some { setListener i .finished s with streamSocket := none }
    | _ => none

def webStep (s : State) : WebEvent → Option State
  | .accept =>
    match s.web with
    | .accepting => some { s with
        web := .serving s.table.lowestFree
        table := s.table.install .web }
    | _ => none
  | .close =>
    match s.web with
    | .serving newsockfd => some { s with web := .accepting, table := s.table.close newsockfd }
    | _ => none

def step (s : State) : Event → Option State
  | .stream e => streamStep s e
  | .listener i e => listenerStep i s e
  | .web e => webStep s e

def start : State where
  table := ⟨[some .standard,some .standard,some .standard,some .webSocket,some .jpegSocket]⟩
  jpegSocket := some 4
  streamSocket := none
  session := 0
  stream := .accepting
  listeners := []
  web := .accepting
  deliveries := []

def system : Runs.System State Event where
  init := start
  step := step

def InUse (s : State) (n : ℕ) : Prop :=
  s.streamSocket = some n ∨ ∃ left, s.stream = .writing n left ∧ left.flatten ≠ []

def OwnConnection (s : State) : Prop :=
  ∀ d ∈ s.deliveries, d.data ≠ [] → d.connection = .stream d.session

def NotReused (s : State) (e : Event) : Prop :=
  e = .web .accept → ¬ InUse s s.table.lowestFree

structure Separate (s : State) : Prop where
  in_use : ∀ n, InUse s n →
    s.table.lookup n = some (.stream s.session) ∨ s.table.lookup n = none
  own : OwnConnection s
  outside : s.stream = .opening ∨ s.stream = .accepting ∨ s.stream = .closing →
    s.streamSocket = none
  shared : ∀ n left, s.stream = .writing n left → s.streamSocket = none ∨ s.streamSocket = some n

theorem separate_deliver {s : State} (h : Separate s) {fd : ℕ} {data : List UInt8}
    {left : List (List UInt8)} (hw : s.stream = .writing fd (data :: left)) :
    OwnConnection (deliver fd data s) := by
  unfold deliver
  split
  · next connection hlookup =>
    intro d hd hne
    rcases List.mem_append.mp hd with hd | hd
    · exact h.own d hd hne
    · obtain rfl := List.mem_singleton.mp hd
      have huse : InUse s fd := .inr ⟨_,hw,by simp [hne]⟩
      rcases h.in_use fd huse with hl | hl
      · exact Option.some.inj (hlookup.symm.trans hl)
      · exact absurd (hlookup.symm.trans hl) (by simp)
  · exact h.own

def AtLoop (s : State) : Prop := ∀ n left, s.stream ≠ .writing n left

theorem separate_idle {t : State} (hloop : AtLoop t) (hown : OwnConnection t)
    (hsocket : t.streamSocket = none) : Separate t := by
  refine ⟨?_,hown,fun _ => hsocket,fun n left hw => absurd hw (hloop n left)⟩
  rintro n (hn | ⟨left,hw,-⟩)
  · exact absurd (hn.symm.trans hsocket) (by simp)
  · exact absurd hw (hloop n left)

theorem separate_moved {s : State} (h : Separate s) {p : StreamCallback}
    {listeners : List StreamListener} (hloop : ∀ n left, p ≠ .writing n left)
    (hout : p = .opening ∨ p = .accepting ∨ p = .closing → s.streamSocket = none) :
    Separate { s with stream := p, listeners := listeners } := by
  refine ⟨?_,h.own,hout,fun n left hw => absurd hw (hloop n left)⟩
  rintro n (hn | ⟨left,hw,-⟩)
  · exact h.in_use n (.inl hn)
  · exact absurd hw (hloop n left)

theorem deliver_cases (fd : ℕ) (data : List UInt8) (s : State) :
    ∃ deliveries, deliver fd data s = { s with deliveries := deliveries } := by
  unfold deliver
  split
  · exact ⟨_,rfl⟩
  · exact ⟨s.deliveries,rfl⟩

theorem separate_write {s : State} (h : Separate s) {fd : ℕ} {data : List UInt8}
    {left : List (List UInt8)} (hw : s.stream = .writing fd (data :: left)) :
    Separate { deliver fd data s with stream := .writing fd left } := by
  have hown := separate_deliver h hw
  obtain ⟨deliveries,hd⟩ := deliver_cases fd data s
  rw [hd] at hown ⊢
  refine ⟨?_,hown,by simp,?_⟩
  · rintro n (hn | ⟨rest,hrest,hne⟩)
    · exact h.in_use n (.inl hn)
    · cases hrest
      refine h.in_use fd (.inr ⟨_,hw,?_⟩)
      rw [List.flatten_cons]
      exact List.append_ne_nil_of_right_ne_nil _ hne
  · rintro n rest hrest
    cases hrest
    exact h.shared fd _ hw

theorem separate_stream {s t : State} {e : StreamEvent} (h : Separate s)
    (hs : streamStep s e = some t) : Separate t := by
  cases e with
  | openJpegSocket =>
    simp only [streamStep] at hs
    split at hs
    · next hp =>
      cases hs
      exact separate_idle (by simp [AtLoop]) h.own (h.outside (.inl hp))
    · cases hs
  | accept =>
    simp only [streamStep] at hs
    split at hs
    · cases hs
      refine ⟨?_,h.own,by simp,by simp⟩
      rintro n (hn | ⟨left,hw,-⟩)
      · cases hn
        exact .inl (s.table.lookup_install _)
      · cases hw
    · cases hs
  | createListener =>
    simp only [streamStep] at hs
    split at hs
    · cases hs
      exact separate_moved h (by simp) (by simp)
    · cases hs
  | captureFrame writer timeUnix data =>
    simp only [streamStep] at hs
    split at hs
    · next fd hp hsocket =>
      cases hs
      refine ⟨?_,h.own,by simp,?_⟩
      · rintro n (hn | ⟨left,hw,-⟩)
        · exact h.in_use n (.inl hn)
        · cases hw
          exact h.in_use fd (.inl hsocket)
      · rintro n left hw
        cases hw
        exact .inr hsocket
    · cases hs
  | write =>
    simp only [streamStep] at hs
    split at hs
    · next fd data left hp =>
      cases hs
      exact separate_write h hp
    · cases hs
  | endFrame =>
    simp only [streamStep] at hs
    split at hs
    · cases hs
      exact separate_moved h (by simp) (by simp)
    · cases hs
  | leaveLoop =>
    simp only [streamStep] at hs
    split at hs
    · next hp hsocket =>
      cases hs
      exact separate_moved h (by simp) (fun _ => hsocket)
    · cases hs
  | closeJpegSocket =>
    simp only [streamStep] at hs
    split at hs
    · next fd hp hsocket =>
      cases hs
      exact separate_idle (by simp [AtLoop]) h.own (h.outside (.inr (.inr hp)))
    · cases hs

theorem separate_close {s : State} (h : Separate s) (fd : ℕ) :
    Separate { s with table := s.table.close fd } := by
  refine ⟨fun n hn => ?_,h.own,h.outside,h.shared⟩
  rcases eq_or_ne n fd with rfl | hne
  · exact .inr (s.table.lookup_close n)
  · have hkept := s.table.lookup_close_ne hne
    exact hkept ▸ h.in_use n hn

theorem separate_setListener {s : State} (h : Separate s) (i : ℕ) (l : StreamListener) :
    Separate (setListener i l s) := ⟨h.in_use,h.own,h.outside,h.shared⟩

theorem separate_storeInactive {s : State} (h : Separate s) :
    Separate { s with streamSocket := none } := by
  refine ⟨?_,h.own,fun _ => rfl,fun _ _ _ => .inl rfl⟩
  rintro n (hn | hw)
  · cases hn
  · exact h.in_use n (.inr hw)

theorem separate_listener {i : ℕ} {s t : State} {e : ListenerEvent} (h : Separate s)
    (hs : listenerStep i s e = some t) : Separate t := by
  cases e with
  | start =>
    simp only [listenerStep] at hs
    split at hs
    · cases hs
      exact separate_setListener h i _
    · cases hs
      exact separate_setListener h i _
    · cases hs
  | read jibberish =>
    simp only [listenerStep] at hs
    split at hs
    · cases hs
      simp only [readCommand]
      split_ifs
      · exact separate_close (separate_setListener h i .closed) _
      · exact separate_setListener h i _
      · exact separate_close (separate_setListener h i .closed) _
      · exact separate_setListener h i _
    · cases hs
      exact separate_setListener h i _
    · cases hs
  | storeInactive =>
    simp only [listenerStep] at hs
    split at hs
    · cases hs
      exact separate_storeInactive (separate_setListener h i .finished)
    · cases hs

theorem separate_web {s t : State} {e : WebEvent} (h : Separate s)
    (hok : NotReused s (.web e)) (hs : webStep s e = some t) : Separate t := by
  cases e with
  | accept =>
    simp only [webStep] at hs
    split at hs
    · cases hs
      refine ⟨fun n hn => ?_,h.own,h.outside,h.shared⟩
      have hne : n ≠ s.table.lowestFree := fun heq => hok rfl (heq ▸ hn)
      have hkept := LowestFree.Table.lookup_install_ne .web hne
      exact hkept ▸ h.in_use n hn
    · cases hs
  | close =>
    simp only [webStep] at hs
    split at hs
    · cases hs
      have hclosed := separate_close h
      exact ⟨(hclosed _).in_use,h.own,h.outside,h.shared⟩
    · cases hs

theorem separate_step {s t : State} {e : Event} (h : Separate s) (hok : NotReused s e)
    (hs : step s e = some t) : Separate t := by
  cases e with
  | stream e => exact separate_stream h hs
  | listener i e => exact separate_listener h hs
  | web e => exact separate_web h hok hs

def OwnConnectionLater (s : State) : Prop :=
  ∀ (es : List StreamEvent) t, system.after s (es.map .stream) = some t → OwnConnection t

theorem ownConnectionLater_of_separate {s : State} (h : Separate s) : OwnConnectionLater s := by
  intro es
  induction es generalizing s with
  | nil =>
    intro t ht
    cases ht
    exact h.own
  | cons e es ih =>
    intro t ht
    obtain ⟨u,hu,hafter⟩ := Option.bind_eq_some_iff.mp ht
    exact ih (separate_stream h hu) t hafter

theorem ownConnectionLater_step {s t : State} {e : StreamEvent} (h : OwnConnectionLater s)
    (hs : streamStep s e = some t) : OwnConnectionLater t := by
  intro es u hu
  refine h (e :: es) u ?_
  have hstep : system.step s (.stream e) = some t := hs
  rw [List.map_cons,Runs.System.after_cons,hstep]
  exact hu

theorem write_all {s : State} {fd : ℕ} {c : Connection} {left : List (List UInt8)}
    (h : OwnConnectionLater s) (hw : s.stream = .writing fd left)
    (hc : s.table.lookup fd = some c) :
    OwnConnectionLater { s with
      stream := .writing fd []
      deliveries := s.deliveries ++ left.map (fun data => ⟨s.session,c,data⟩) } := by
  induction left generalizing s with
  | nil =>
    have hs : { s with stream := .writing fd [], deliveries := s.deliveries ++ [] } = s := by
      rw [← hw,List.append_nil]
    rw [List.map_nil,hs]
    exact h
  | cons data left ih =>
    have hstep : streamStep s .write = some { s with
        stream := .writing fd left
        deliveries := s.deliveries ++ [⟨s.session,c,data⟩] } := by
      simp [streamStep,hw,deliver,hc]
    have hrest := ih (ownConnectionLater_step h hstep) rfl hc
    simpa using hrest

theorem frame_misdirected {s : State} {fd : ℕ} (h : OwnConnectionLater s)
    (hp : s.stream = .checking) (hsocket : s.streamSocket = some fd) :
    s.table.lookup fd ≠ some .web := by
  intro hc
  have hstep : streamStep s (.captureFrame .start 0 []) = some { s with
      stream := .writing fd (SocketWriter.start.captureAndOutputSocket 0 []) } := by
    simp [streamStep,hp,hsocket]
  have hframe := write_all (ownConnectionLater_step h hstep) rfl hc
  have hown := hframe [] _ rfl ⟨s.session,.web,SocketWriter.startFlag⟩
    (List.mem_append_right _ (List.mem_map_of_mem (by decide))) (by simp [SocketWriter.startFlag])
  cases hown

theorem left_misdirected {s : State} {fd : ℕ} {left : List (List UInt8)}
    (h : OwnConnectionLater s) (hw : s.stream = .writing fd left) (hne : left.flatten ≠ []) :
    s.table.lookup fd ≠ some .web := by
  intro hc
  obtain ⟨data,hmem,hdata⟩ : ∃ data ∈ left, data ≠ [] := by
    simpa [List.flatten_eq_nil_iff] using hne
  have hown := write_all h hw hc [] _ rfl ⟨s.session,.web,data⟩
    (List.mem_append_right _ (List.mem_map_of_mem hmem)) hdata
  cases hown

theorem socket_misdirected {s : State} {fd : ℕ} (hsep : ∀ n left, s.stream = .writing n left → n = fd)
    (hin : ¬ (s.stream = .opening ∨ s.stream = .accepting ∨ s.stream = .closing))
    (h : OwnConnectionLater s) (hsocket : s.streamSocket = some fd) :
    s.table.lookup fd ≠ some .web := by
  cases hp : s.stream with
  | opening => exact absurd (.inl hp) hin
  | accepting => exact absurd (.inr (.inl hp)) hin
  | closing => exact absurd (.inr (.inr hp)) hin
  | checking => exact frame_misdirected h hp hsocket
  | creating =>
    have hstep : streamStep s .createListener = some { s with
        stream := .checking, listeners := s.listeners ++ [.starting] } := by
      simp [streamStep,hp]
    have hframe := frame_misdirected (ownConnectionLater_step h hstep) rfl hsocket
    exact hframe
  | writing n left =>
    obtain rfl := hsep n left hp
    intro hc
    have hdone := write_all h hp hc
    have hstep : streamStep { s with
        stream := .writing n []
        deliveries := s.deliveries ++ left.map (fun data => ⟨s.session,.web,data⟩) } .endFrame =
      some { s with
        stream := .checking
        deliveries := s.deliveries ++ left.map (fun data => ⟨s.session,.web,data⟩) } := rfl
    exact frame_misdirected (ownConnectionLater_step hdone hstep) rfl hsocket hc

theorem misdirected_of_reuse {s t : State} {e : Event} (h : Separate s)
    (hbad : ¬ NotReused s e) (hs : step s e = some t) : ¬ OwnConnectionLater t := by
  simp only [NotReused,Classical.not_imp,not_not] at hbad
  obtain ⟨rfl,huse⟩ := hbad
  have hweb : t.table.lookup s.table.lowestFree = some .web ∧ t.stream = s.stream ∧
      t.streamSocket = s.streamSocket := by
    simp only [step,webStep] at hs
    split at hs
    · cases hs
      exact ⟨s.table.lookup_install _,rfl,rfl⟩
    · cases hs
  obtain ⟨hlookup,hstream,hsocket⟩ := hweb
  intro hlater
  rcases huse with huse | ⟨left,hw,hne⟩
  · refine socket_misdirected ?_ ?_ hlater (hsocket.trans huse) hlookup
    · intro n left hw
      rcases h.shared n left (hstream ▸ hw) with hnone | hsome
      · exact absurd (hnone.symm.trans huse) (by simp)
      · exact Option.some.inj (hsome.symm.trans huse)
    · intro hp
      rw [hstream] at hp
      exact absurd ((h.outside hp).symm.trans huse) (by simp)
  · exact left_misdirected hlater (hstream.trans hw) hne hlookup

theorem separate_start : Separate start :=
  separate_idle (by simp [AtLoop,start]) (by simp [OwnConnection,start]) rfl

theorem stream_bytes_separate_iff (events : List Event) (s : State)
    (hrun : system.run events = some s) :
    (system.Meets NotReused events → system.Always OwnConnection events) ∧
    (system.Always OwnConnectionLater events ↔ system.Meets NotReused events) := by
  have hiff := system.always_iff_meets separate_start (fun _ _ _ => separate_step)
    (fun _ => ownConnectionLater_of_separate) (fun _ _ _ => misdirected_of_reuse) hrun
  exact ⟨fun hm p t hp ht => hiff.mpr hm p t hp ht [] t rfl,hiff⟩

def lostConnection : List Event :=
  [.stream .accept,.stream .createListener,.listener 0 .start,
    .stream (.captureFrame .start 0 [1]),.stream .write] ++
  List.replicate 11 (.listener 0 (.read true))

theorem stream_bytes_separate_iff_lostConnection :
    (system.Meets NotReused lostConnection → system.Always OwnConnection lostConnection) ∧
    (system.Always OwnConnectionLater lostConnection ↔ system.Meets NotReused lostConnection) :=
  stream_bytes_separate_iff lostConnection _ rfl

theorem web_client_gets_stream_bytes :
    ¬ ∀ (events : List Event) (s : State), system.run events = some s → OwnConnection s := by
  intro h
  have hown := h (lostConnection ++ [.web .accept,.stream .write]) _ rfl
    ⟨1,.web,[0]⟩ (by decide) (by decide)
  cases hown

end VideoSurveillance.Sockets
