import VideoSurveillance.Server.Sockets

namespace VideoSurveillance.SocketListener
open Sockets (JIBBERISH_TOLERANCE)

inductive Outcome where
  | received (data : UInt8)
  | endOfStream
  | error
  deriving DecidableEq

def Outcome.readBuffer : Outcome → UInt8
  | .received data => data
  | .endOfStream => 0
  | .error => 0

def Outcome.Jibberish (o : Outcome) : Prop :=
  o.readBuffer ≠ 0x30 ∧ o.readBuffer ≠ 0x31 ∧ o.readBuffer ≠ 0x32

instance (o : Outcome) : Decidable o.Jibberish := inferInstanceAs (Decidable (_ ∧ _ ∧ _))

structure State where
  streamSocket : Option ℕ
  shared : Option ℕ
  nothingCount : ℕ
  closes : List ℕ
  calls : List (Mode × Int32)
  deriving DecidableEq

def start (shared : Option ℕ) : State where
  streamSocket := shared
  shared := shared
  nothingCount := 0
  closes := []
  calls := []

def countNothing (o : Outcome) (s : State) : State :=
  if o.Jibberish then { s with nothingCount := s.nothingCount + 1 } else s

def closeStream (streamSocket : ℕ) (s : State) : State :=
  if s.nothingCount > JIBBERISH_TOLERANCE then
    { s with
      closes := s.closes ++ [streamSocket]
      streamSocket := none
      shared := none }
  else s

def setModeCalls (readBuffer : UInt8) : List (Mode × Int32) :=
  if readBuffer = 0x30 then [(.idle,0)]
  else if readBuffer = 0x31 then [(.movie,0)]
  else []

def command (readBuffer : UInt8) (s : State) : State :=
  { s with calls := s.calls ++ setModeCalls readBuffer }

def round (o : Outcome) (streamSocket : ℕ) (s : State) : State :=
  command o.readBuffer (closeStream streamSocket (countNothing o s))

def streamListenerCallback (jpegSocket : Option ℕ) : State → List Outcome → State × List Outcome
  | s, [] => (s,[])
  | s, o :: rest =>
    match jpegSocket, s.streamSocket with
    | some _, some streamSocket =>
      streamListenerCallback jpegSocket (round o streamSocket s) rest
    | _, _ => (s,o :: rest)

-- what each outcome asks for, whatever the loop above does with it
def Outcome.expectedCall : Outcome → Option (Mode × Int32)
  | .received data =>
    match data.toNat with
    | 48 => some (.idle,0)
    | 49 => some (.movie,0)
    | _ => none
  | .endOfStream => none
  | .error => none

def Outcome.Junk : Outcome → Prop
  | .received data => data.toNat ∉ [48,49,50]
  | .endOfStream => True
  | .error => True

instance : DecidablePred Outcome.Junk
  | .received data => inferInstanceAs (Decidable (data.toNat ∉ [48,49,50]))
  | .endOfStream => inferInstanceAs (Decidable True)
  | .error => inferInstanceAs (Decidable True)

def expectedCalls (outcomes : List Outcome) : List (Mode × Int32) :=
  outcomes.filterMap Outcome.expectedCall

def junk (outcomes : List Outcome) : ℕ := outcomes.countP (fun o => o.Junk)

def listening (s : State) (outcomes : List Outcome) : State :=
  { s with
    nothingCount := s.nothingCount + junk outcomes
    calls := s.calls ++ expectedCalls outcomes }

def closed (streamSocket : ℕ) (s : State) (outcomes : List Outcome) : State :=
  { listening s outcomes with
    closes := s.closes ++ [streamSocket]
    streamSocket := none
    shared := none }

theorem jibberish_iff (o : Outcome) : o.Jibberish ↔ o.Junk := by
  cases o with
  | received data =>
    simp only [Outcome.Jibberish,Outcome.readBuffer,Outcome.Junk,ne_eq,← UInt8.toNat_inj,
      List.mem_cons,List.not_mem_nil,or_false,not_or]
    rfl
  | endOfStream | error => exact iff_of_true (by decide) trivial

theorem setModeCalls_expected (o : Outcome) :
    setModeCalls o.readBuffer = o.expectedCall.toList := by
  cases o with
  | received data =>
    simp only [setModeCalls,Outcome.readBuffer,Outcome.expectedCall,← UInt8.toNat_inj]
    split_ifs with hidle hmovie
    · rw [hidle]
      rfl
    · rw [hmovie]
      rfl
    · split
      · next h => exact absurd h hidle
      · next h => exact absurd h hmovie
      · rfl
  | endOfStream | error => rfl

theorem junk_cons (o : Outcome) (outcomes : List Outcome) :
    junk (o :: outcomes) = (if o.Junk then 1 else 0) + junk outcomes := by
  rw [junk,List.countP_cons,junk]
  simp only [decide_eq_true_eq]
  omega

theorem junk_append (before outcomes : List Outcome) :
    junk (before ++ outcomes) = junk before + junk outcomes := List.countP_append

theorem expectedCalls_cons (o : Outcome) (outcomes : List Outcome) :
    expectedCalls (o :: outcomes) = o.expectedCall.toList ++ expectedCalls outcomes := by
  rw [expectedCalls,List.filterMap_cons]
  cases o.expectedCall <;> rfl

theorem expectedCalls_one (o : Outcome) : expectedCalls [o] = o.expectedCall.toList := by
  rw [expectedCalls_cons]
  exact List.append_nil _

theorem countNothing_eq (o : Outcome) (s : State) :
    countNothing o s = { s with nothingCount := s.nothingCount + junk [o] } := by
  rw [countNothing,junk_cons]
  simp only [jibberish_iff]
  split_ifs <;> rfl

theorem listening_cons (s : State) (o : Outcome) (outcomes : List Outcome) :
    listening (listening s [o]) outcomes = listening s (o :: outcomes) := by
  simp only [listening,expectedCalls_cons o outcomes,expectedCalls_one,junk_cons,List.append_assoc]
  simp [junk,Nat.add_assoc]

theorem closed_cons (fd : ℕ) (s : State) (o : Outcome) (outcomes : List Outcome) :
    closed fd (listening s [o]) outcomes = closed fd s (o :: outcomes) := by
  rw [closed,listening_cons,closed]
  rfl

theorem round_listening {o : Outcome} {s : State} (fd : ℕ)
    (h : s.nothingCount + junk [o] ≤ JIBBERISH_TOLERANCE) :
    round o fd s = listening s [o] := by
  rw [round,countNothing_eq,closeStream,if_neg (Nat.not_lt.mpr h)]
  simp [command,listening,setModeCalls_expected,expectedCalls_one]

theorem round_closed {o : Outcome} {s : State} (fd : ℕ)
    (h : JIBBERISH_TOLERANCE < s.nothingCount + junk [o]) :
    round o fd s = closed fd s [o] := by
  rw [round,countNothing_eq,closeStream,if_pos h]
  simp [command,closed,listening,setModeCalls_expected,expectedCalls_one]

theorem callback_closed {jpegSocket : Option ℕ} {s : State} (h : s.streamSocket = none)
    (outcomes : List Outcome) : streamListenerCallback jpegSocket s outcomes = (s,outcomes) := by
  cases outcomes with
  | nil => rfl
  | cons o rest => simp only [streamListenerCallback,h]

theorem callback_listening (jpeg : ℕ) {fd : ℕ} {s : State} {outcomes : List Outcome}
    (hfd : s.streamSocket = some fd)
    (h : s.nothingCount + junk outcomes ≤ JIBBERISH_TOLERANCE) :
    streamListenerCallback (some jpeg) s outcomes = (listening s outcomes,[]) := by
  induction outcomes generalizing s with
  | nil => simp [streamListenerCallback,listening,junk,expectedCalls]
  | cons o rest ih =>
    have hsplit := junk_cons o rest
    have hone := junk_cons o []
    have hnil : junk [] = 0 := rfl
    simp only [streamListenerCallback,hfd]
    rw [round_listening fd (by omega),ih (s := listening s [o]) hfd (by simp only [listening]; omega),
      listening_cons]

theorem callback_closes (jpeg : ℕ) {fd : ℕ} {s : State} {outcomes : List Outcome}
    (hfd : s.streamSocket = some fd) (hopen : s.nothingCount ≤ JIBBERISH_TOLERANCE)
    (h : JIBBERISH_TOLERANCE < s.nothingCount + junk outcomes) :
    ∃ before last rest, outcomes = before ++ last :: rest ∧ last.Junk ∧
      s.nothingCount + junk before = JIBBERISH_TOLERANCE ∧
      streamListenerCallback (some jpeg) s outcomes = (closed fd s (before ++ [last]),rest) := by
  induction outcomes generalizing s with
  | nil => exact absurd h (Nat.not_lt.mpr hopen)
  | cons o rest ih =>
    have hsplit := junk_cons o rest
    have hone := junk_cons o []
    have hnil : junk [] = 0 := rfl
    simp only [streamListenerCallback,hfd]
    rcases Nat.lt_or_ge JIBBERISH_TOLERANCE (s.nothingCount + junk [o]) with hnow | hlater
    · have hlast : o.Junk := by
        by_contra hvalid
        rw [if_neg hvalid] at hone
        omega
      rw [if_pos hlast] at hone
      rw [round_closed fd hnow,callback_closed rfl]
      exact ⟨[],o,rest,rfl,hlast,by omega,rfl⟩
    · obtain ⟨before,last,later,hrest,hlast,hcount,hcall⟩ :=
        ih (s := listening s [o]) hfd hlater (by simp only [listening]; omega)
      have hbefore := junk_cons o before
      rw [round_listening fd hlater,hcall,closed_cons]
      refine ⟨o :: before,last,later,by rw [hrest]; rfl,hlast,?_,rfl⟩
      simp only [listening] at hcount
      omega

structure Listened (fd : ℕ) (outcomes : List Outcome) (r : State × List Outcome) : Prop where
  closes : r.1.closes = if 11 ≤ junk outcomes then [fd] else []
  marked : r.1.shared = if 11 ≤ junk outcomes then none else some fd
  stops : r.1.streamSocket = r.1.shared
  reads : ∃ consumed, outcomes = consumed ++ r.2 ∧ r.1.calls = expectedCalls consumed ∧
    if 11 ≤ junk outcomes then
      ∃ before last, consumed = before ++ [last] ∧ last.Junk ∧ junk before = 10
    else r.2 = []

theorem listened (jpeg fd : ℕ) (outcomes : List Outcome) :
    Listened fd outcomes (streamListenerCallback (some jpeg) (start (some fd)) outcomes) := by
  have hcount : (start (some fd)).nothingCount + junk outcomes = junk outcomes := Nat.zero_add _
  rcases Nat.lt_or_ge (junk outcomes) 11 with hopen | hclose
  · have hnot := Nat.not_le.mpr hopen
    rw [callback_listening jpeg rfl (by rw [hcount]; exact Nat.le_of_lt_succ hopen)]
    refine ⟨by rw [if_neg hnot]; rfl,by rw [if_neg hnot]; rfl,rfl,outcomes,?_,?_,?_⟩
    · exact (List.append_nil outcomes).symm
    · exact List.nil_append _
    · rw [if_neg hnot]
  · obtain ⟨before,last,rest,houtcomes,hlast,hbefore,hcall⟩ :=
      callback_closes jpeg rfl (Nat.zero_le _) (by rw [hcount]; exact hclose)
    rw [hcall]
    refine ⟨by rw [if_pos hclose]; rfl,by rw [if_pos hclose]; rfl,rfl,before ++ [last],?_,?_,?_⟩
    · rw [houtcomes,List.append_assoc]
      rfl
    · exact List.nil_append _
    · rw [if_pos hclose]
      exact ⟨before,last,rfl,hlast,(Nat.zero_add _).symm.trans hbefore⟩

theorem ends_after_stream (jpeg fd : ℕ) (before : List Outcome) :
    (streamListenerCallback (some jpeg) (start (some fd))
      (before ++ List.replicate 11 .endOfStream)).1.streamSocket = none := by
  have hmany : 11 ≤ junk (before ++ List.replicate 11 .endOfStream) := by
    rw [junk_append]
    exact Nat.le_add_left 11 _
  have h := listened jpeg fd (before ++ List.replicate 11 .endOfStream)
  rw [h.stops,h.marked,if_pos hmany]

theorem command_listener (jpeg fd : ℕ) :
    (∀ outcomes, Listened fd outcomes
      (streamListenerCallback (some jpeg) (start (some fd)) outcomes)) ∧
    ∀ before, (streamListenerCallback (some jpeg) (start (some fd))
      (before ++ List.replicate 11 .endOfStream)).1.streamSocket = none :=
  ⟨listened jpeg fd,ends_after_stream jpeg fd⟩

def place (s : State) : Sockets.StreamListener :=
  match s.streamSocket with
  | some streamSocket => .reading streamSocket s.nothingCount
  | none => .closed

theorem round_readCommand (o : Outcome) {i fd : ℕ} {s : State} {sockets : Sockets.State}
    (hfd : s.streamSocket = some fd) (hi : i < sockets.listeners.length) :
    (Sockets.readCommand i (decide o.Jibberish) fd s.nothingCount sockets).listeners[i]? =
      some (place (round o fd s)) := by
  have hcount : (if decide o.Jibberish = true then s.nothingCount + 1 else s.nothingCount) =
      s.nothingCount + junk [o] := by
    rw [junk_cons]
    by_cases ho : o.Junk <;> simp [jibberish_iff,ho,junk]
  rw [Sockets.readCommand,hcount]
  rcases Nat.lt_or_ge JIBBERISH_TOLERANCE (s.nothingCount + junk [o]) with hclose | hopen
  · rw [if_pos hclose,round_closed fd hclose]
    simp [Sockets.setListener,place,closed,hi]
  · rw [if_neg (Nat.not_lt.mpr hopen),round_listening fd hopen]
    simp [Sockets.setListener,place,listening,hi,hfd]

end VideoSurveillance.SocketListener
