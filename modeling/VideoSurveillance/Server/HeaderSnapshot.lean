import VideoSurveillance.Library.Runs
import VideoSurveillance.Server.SocketWriter

namespace VideoSurveillance.HeaderSnapshot

inductive CallPlace where
  | locked (newMode : Mode) (motionDetected : Int32)
  | bitSet (newMode : Mode)
  | bitCleared (newMode : Mode)
  | assigned
  deriving DecidableEq

inductive HeaderPlace where
  | outside
  | entered
  | sampled (md : UInt8) (unsent : List UInt8)
  | combined (md : UInt8)
  deriving DecidableEq

structure State where
  writer : SocketWriter
  call : Option CallPlace
  header : HeaderPlace
  sent : List UInt8
  seen : List SocketWriter
  modeBytes : List (UInt8 × List SocketWriter)
  deriving DecidableEq

inductive Event where
  | callSetMode (newMode : Mode) (motionDetected : Int32)
  | setBit
  | clearBit
  | assignMode
  | unlock
  | enterHeader
  | readMode (timeUnix : UInt64) (size : UInt32)
  | writeByte
  | readBit
  | writeMode
  deriving DecidableEq

def headerBytes (timeUnix : UInt64) (size : UInt32) : List UInt8 :=
  (List.range 8).reverse.map (fun i => (timeUnix >>> UInt64.ofNat (i * 8)).toUInt8 &&& 0xFF) ++
  (List.range 4).reverse.map (fun i => (size >>> UInt32.ofNat (i * 8)).toUInt8 &&& 0xFF)

def moveCall (s : State) : CallPlace → Event → Option State
  | .locked newMode motionDetected, .setBit =>
    some { s with
      writer := if motionDetected ≠ 0 then { s.writer with motionBit := 2 } else s.writer
      call := some (.bitSet newMode) }
  | .bitSet newMode, .clearBit =>
    some { s with
      writer := if newMode = .idle then { s.writer with motionBit := 0 } else s.writer
      call := some (.bitCleared newMode) }
  | .bitCleared newMode, .assignMode =>
    some { s with writer := { s.writer with mode := newMode }, call := some .assigned }
  | .assigned, .unlock => some { s with call := none }
  | _, _ => none

def moveHeader (s : State) : HeaderPlace → Event → Option State
  | .outside, .enterHeader => some { s with header := .entered, seen := [] }
  | .entered, .readMode timeUnix size =>
    some { s with
      header := .sampled (if s.writer.mode = .movie then 1 else 0) (headerBytes timeUnix size) }
  | .sampled md (data :: unsent), .writeByte =>
    some { s with header := .sampled md unsent, sent := s.sent ++ [data] }
  | .sampled md [], .readBit => some { s with header := .combined (md ||| s.writer.motionBit) }
  | .combined md, .writeMode =>
    some { s with
      header := .outside
      sent := s.sent ++ [md]
      modeBytes := s.modeBytes ++ [(md,s.seen)] }
  | _, _ => none

def move (s : State) : Event → Option State
  | .callSetMode newMode motionDetected =>
    match s.call with
    | none =>
      if s.writer.mode = newMode then some s
      else some { s with call := some (.locked newMode motionDetected) }
    | some _ => none
  | .setBit => s.call.bind (fun place => moveCall s place .setBit)
  | .clearBit => s.call.bind (fun place => moveCall s place .clearBit)
  | .assignMode => s.call.bind (fun place => moveCall s place .assignMode)
  | .unlock => s.call.bind (fun place => moveCall s place .unlock)
  | e => moveHeader s s.header e

def observe (s : State) : State :=
  if s.call = none then { s with seen := s.seen.insert s.writer } else s

def system : Runs.System State Event where
  init := ⟨.start,none,.outside,[],[.start],[]⟩
  step := fun s e => (move s e).map observe

def pending (s : State) : Option UInt8 :=
  match s.header with
  | .sampled md _ => some (md ||| s.writer.motionBit)
  | .combined md => some md
  | _ => none

def toSend (s : State) : List UInt8 :=
  match s.header with
  | .sampled md unsent => unsent ++ [md ||| s.writer.motionBit]
  | .combined md => [md]
  | _ => []

def remaining : HeaderPlace → List Event
  | .sampled _ unsent => List.replicate unsent.length .writeByte ++ [.readBit,.writeMode]
  | .combined _ => [.writeMode]
  | _ => []

def Consistent (seen : List SocketWriter) (md : UInt8) : Prop := ∃ w ∈ seen, md = w.headerMode

def Written (s : State) : Prop :=
  ∀ f ∈ s.modeBytes, Consistent f.2 f.1 ∧ (f.1 &&& 2 = 2 → f.1 &&& 1 = 1)

def Snapshot (s : State) : Prop :=
  ∀ t, system.after s (remaining s.header) = some t → Written t

inductive Moved (s : State) : Event → State → Prop
  | returns {newMode : Mode} {motionDetected : Int32} : s.call = none → s.writer.mode = newMode →
      Moved s (.callSetMode newMode motionDetected) s
  | locks {newMode : Mode} {motionDetected : Int32} : s.call = none → s.writer.mode ≠ newMode →
      Moved s (.callSetMode newMode motionDetected)
        { s with call := some (.locked newMode motionDetected) }
  | setsBit {newMode : Mode} {motionDetected : Int32} :
      s.call = some (.locked newMode motionDetected) → Moved s .setBit { s with
        writer := if motionDetected ≠ 0 then { s.writer with motionBit := 2 } else s.writer
        call := some (.bitSet newMode) }
  | clearsBit {newMode : Mode} : s.call = some (.bitSet newMode) → Moved s .clearBit { s with
      writer := if newMode = .idle then { s.writer with motionBit := 0 } else s.writer
      call := some (.bitCleared newMode) }
  | assigns {newMode : Mode} : s.call = some (.bitCleared newMode) → Moved s .assignMode
      { s with writer := { s.writer with mode := newMode }, call := some .assigned }
  | unlocks : s.call = some .assigned → Moved s .unlock { s with call := none }
  | enters : s.header = .outside → Moved s .enterHeader { s with header := .entered, seen := [] }
  | samples {timeUnix : UInt64} {size : UInt32} : s.header = .entered →
      Moved s (.readMode timeUnix size) { s with
        header := .sampled (if s.writer.mode = .movie then 1 else 0) (headerBytes timeUnix size) }
  | writes {md data : UInt8} {unsent : List UInt8} : s.header = .sampled md (data :: unsent) →
      Moved s .writeByte { s with header := .sampled md unsent, sent := s.sent ++ [data] }
  | combines {md : UInt8} : s.header = .sampled md [] →
      Moved s .readBit { s with header := .combined (md ||| s.writer.motionBit) }
  | finishes {md : UInt8} : s.header = .combined md → Moved s .writeMode { s with
      header := .outside
      sent := s.sent ++ [md]
      modeBytes := s.modeBytes ++ [(md,s.seen)] }

theorem moved_header {s t : State} {e : Event} (h : moveHeader s s.header e = some t) :
    Moved s e t := by
  unfold moveHeader at h
  split at h
  · next hp =>
    cases h
    exact .enters hp
  · next hp =>
    cases h
    exact .samples hp
  · next hp =>
    cases h
    exact .writes hp
  · next hp =>
    cases h
    exact .combines hp
  · next hp =>
    cases h
    exact .finishes hp
  · cases h

theorem moved_call {s t : State} {e : Event} (h : s.call.bind (fun place => moveCall s place e) = some t) :
    Moved s e t := by
  obtain ⟨place,hp,h⟩ := Option.bind_eq_some_iff.mp h
  unfold moveCall at h
  split at h
  · cases h
    exact .setsBit hp
  · cases h
    exact .clearsBit hp
  · cases h
    exact .assigns hp
  · cases h
    exact .unlocks hp
  · cases h

theorem moved {s t : State} {e : Event} (h : move s e = some t) : Moved s e t := by
  cases e with
  | callSetMode newMode motionDetected =>
    simp only [move] at h
    split at h
    · next hp =>
      split_ifs at h with hmode
      · cases h
        exact .returns hp hmode
      · cases h
        exact .locks hp hmode
    · cases h
  | setBit | clearBit | assignMode | unlock => exact moved_call h
  | enterHeader | readMode | writeByte | readBit | writeMode => exact moved_header h

def MovieBit (w : SocketWriter) : Prop := w.mode = .idle → w.motionBit = 0

def Settled (w : SocketWriter) : Option CallPlace → Prop
  | none => MovieBit w
  | some .assigned => MovieBit w
  | some (.bitCleared newMode) => newMode = .idle → w.motionBit = 0
  | some _ => True

structure Base (s : State) : Prop where
  observed : s.call = none → s.writer ∈ s.seen
  settled : Settled s.writer s.call
  seen : ∀ w ∈ s.seen, MovieBit w

theorem observe_open {s : State} (h : s.call = none) :
    observe s = { s with seen := s.seen.insert s.writer } := if_pos h

theorem observe_call {s : State} {place : CallPlace} (h : s.call = some place) : observe s = s :=
  if_neg (by simp [h])

theorem base_observe {s : State} (hsettled : Settled s.writer s.call)
    (hseen : ∀ w ∈ s.seen, MovieBit w) : Base (observe s) := by
  cases hp : s.call with
  | none =>
    rw [observe_open hp]
    rw [hp] at hsettled
    refine ⟨fun _ => List.mem_insert_self,by rw [hp]; exact hsettled,fun w hw => ?_⟩
    rcases List.mem_insert_iff.mp hw with rfl | hw
    · exact hsettled
    · exact hseen w hw
  | some place =>
    rw [observe_call hp]
    exact ⟨by simp [hp],hsettled,hseen⟩

theorem base_moved {s t : State} {e : Event} (hs : Base s) (h : Moved s e t) : Base (observe t) := by
  cases h with
  | returns hp hmode => exact base_observe hs.settled hs.seen
  | locks hp hmode => exact base_observe trivial hs.seen
  | setsBit hp => exact base_observe trivial hs.seen
  | clearsBit hp => exact base_observe (fun hidle => by rw [if_pos hidle]) hs.seen
  | assigns hp =>
    have hsettled := hs.settled
    rw [hp] at hsettled
    exact base_observe hsettled hs.seen
  | unlocks hp =>
    have hsettled := hs.settled
    rw [hp] at hsettled
    exact base_observe hsettled hs.seen
  | enters => exact base_observe hs.settled (by simp)
  | samples | writes | combines | finishes => exact base_observe hs.settled hs.seen

theorem system_moved {s t : State} {e : Event} (h : system.step s e = some t) :
    ∃ u, Moved s e u ∧ t = observe u := by
  obtain ⟨u,hu,rfl⟩ := Option.map_eq_some_iff.mp h
  exact ⟨u,moved hu,rfl⟩

theorem base_run {es : List Event} {s : State} (hrun : system.run es = some s) : Base s := by
  refine system.invariant (I := Base) ⟨fun _ => List.mem_singleton_self _,fun _ => rfl,?_⟩ ?_ hrun
  · intro w hw
    rw [List.mem_singleton.mp hw]
    exact fun _ => rfl
  · intro s e t hs h
    obtain ⟨u,hu,rfl⟩ := system_moved h
    exact base_moved hs hu

theorem consistent_mono {seen seen' : List SocketWriter} {md : UInt8} (h : ∀ w ∈ seen, w ∈ seen')
    (hmd : Consistent seen md) : Consistent seen' md := by
  obtain ⟨w,hw,heq⟩ := hmd
  exact ⟨w,h w hw,heq⟩

theorem or_and_one (bit : UInt8) : (1 ||| bit) &&& 1 = 1 := by
  apply UInt8.toBitVec_inj.mp
  ext i hi
  simp
  grind

theorem movie_of_motion {seen : List SocketWriter} (hseen : ∀ w ∈ seen, MovieBit w) {md : UInt8}
    (h : Consistent seen md) : md &&& 2 = 2 → md &&& 1 = 1 := by
  obtain ⟨w,hw,rfl⟩ := h
  intro hmotion
  rw [SocketWriter.headerMode] at hmotion ⊢
  cases hmode : w.mode with
  | idle =>
    rw [hmode,hseen w hw hmode] at hmotion
    exact absurd hmotion (by decide)
  | movie =>
    exact or_and_one w.motionBit

structure Promised (s : State) : Prop where
  written : Written s
  pending : ∀ md, pending s = some md → Consistent s.seen md

theorem base_header {s : State} (hs : Base s) (header : HeaderPlace) :
    Base { s with header := header } := ⟨hs.observed,hs.settled,hs.seen⟩

theorem observe_settled {s : State} (hs : Base s) : observe s = s := by
  cases hp : s.call with
  | none => rw [observe_open hp,List.insert_of_mem (hs.observed hp)]
  | some place => exact observe_call hp

theorem after_writes {s : State} (hs : Base s) {md : UInt8} {unsent : List UInt8}
    (h : s.header = .sampled md unsent) :
    system.after s (List.replicate unsent.length .writeByte) =
      some { s with header := .sampled md [], sent := s.sent ++ unsent } := by
  induction unsent generalizing s with
  | nil =>
    rw [List.append_nil,← h]
    rfl
  | cons data unsent ih =>
    have hnext : Base { s with header := .sampled md unsent, sent := s.sent ++ [data] } :=
      ⟨hs.observed,hs.settled,hs.seen⟩
    have hstep : system.step s .writeByte =
        some { s with header := .sampled md unsent, sent := s.sent ++ [data] } := by
      simp only [system,move,h,moveHeader,Option.map_some,observe_settled hnext]
    rw [List.length_cons,List.replicate_succ,Runs.System.after_cons,hstep,Option.bind_some,
      ih hnext rfl]
    simp only [List.append_assoc,List.singleton_append]

theorem after_remaining {s : State} (hs : Base s) :
    ∃ t, system.after s (remaining s.header) = some t ∧ t.sent = s.sent ++ toSend s ∧
      t.modeBytes = s.modeBytes ++ (pending s).toList.map (fun md => (md,s.seen)) := by
  have hcombined : ∀ (md : UInt8) (sent : List UInt8),
      ∃ t, system.after { s with header := .combined md, sent := sent } [.writeMode] = some t ∧
        t.sent = sent ++ [md] ∧ t.modeBytes = s.modeBytes ++ [(md,s.seen)] := by
    intro md sent
    let t : State := { s with
      header := .outside
      sent := sent ++ [md]
      modeBytes := s.modeBytes ++ [(md,s.seen)] }
    have hnext : Base t := ⟨hs.observed,hs.settled,hs.seen⟩
    have hstep : system.step { s with header := .combined md, sent := sent } .writeMode =
        some (observe t) := rfl
    refine ⟨t,?_,rfl,rfl⟩
    rw [Runs.System.after_cons,hstep,observe_settled hnext]
    rfl
  cases hp : s.header with
  | outside | entered => exact ⟨s,rfl,by simp [toSend,hp],by simp [pending,hp]⟩
  | combined md =>
    have hsame : s = { s with header := .combined md, sent := s.sent } := by rw [← hp]
    rw [toSend,pending,hp,remaining,hsame]
    exact hcombined md s.sent
  | sampled md unsent =>
    obtain ⟨t,ht,hsent,hbytes⟩ := hcombined (md ||| s.writer.motionBit) (s.sent ++ unsent)
    refine ⟨t,?_,by rw [hsent,toSend,hp,List.append_assoc],by rw [hbytes,pending,hp]; rfl⟩
    have hnext : Base { s with
        header := .combined (md ||| s.writer.motionBit)
        sent := s.sent ++ unsent } := ⟨hs.observed,hs.settled,hs.seen⟩
    have hread : system.step { s with header := .sampled md [], sent := s.sent ++ unsent } .readBit =
        some { s with header := .combined (md ||| s.writer.motionBit), sent := s.sent ++ unsent } := by
      simp only [system,move,moveHeader,Option.map_some,observe_settled hnext]
    rw [remaining,Runs.System.after_append,after_writes hs hp,Option.bind_some,
      Runs.System.after_cons,hread,Option.bind_some]
    exact ht

theorem snapshot_iff {s : State} (hs : Base s) : Snapshot s ↔ Promised s := by
  obtain ⟨t,ht,-,hbytes⟩ := after_remaining hs
  have hsnapshot : Snapshot s ↔ Written t := by
    refine ⟨fun h => h t ht,fun h u hu => ?_⟩
    obtain rfl := Option.some.inj (hu.symm.trans ht)
    exact h
  rw [hsnapshot,Written,hbytes,List.forall_mem_append]
  constructor
  · rintro ⟨hwritten,hlast⟩
    refine ⟨hwritten,fun md hmd => ?_⟩
    exact (hlast (md,s.seen) (by simp [hmd])).1
  · rintro ⟨hwritten,hpending⟩
    refine ⟨hwritten,fun f hf => ?_⟩
    obtain ⟨md,hmd,rfl⟩ := List.mem_map.mp hf
    have hconsistent := hpending md (Option.mem_toList.mp hmd)
    exact ⟨hconsistent,movie_of_motion hs.seen hconsistent⟩

def ValidBit (w : SocketWriter) : Prop := w.motionBit = 0 ∨ w.motionBit = 2

structure Bits (s : State) : Prop where
  writer : ValidBit s.writer
  seen : ∀ w ∈ s.seen, ValidBit w
  sampled : ∀ md unsent, s.header = .sampled md unsent → md = 0 ∨ md = 1

theorem bits_observe {s : State} (h : Bits s) : Bits (observe s) := by
  cases hp : s.call with
  | none =>
    rw [observe_open hp]
    refine ⟨h.writer,fun w hw => ?_,h.sampled⟩
    rcases List.mem_insert_iff.mp hw with rfl | hw
    · exact h.writer
    · exact h.seen w hw
  | some place =>
    rw [observe_call hp]
    exact h

theorem bits_moved {s t : State} {e : Event} (hs : Bits s) (h : Moved s e t) : Bits (observe t) := by
  refine bits_observe ?_
  cases h with
  | returns | locks | assigns | unlocks => exact ⟨hs.writer,hs.seen,hs.sampled⟩
  | setsBit =>
    refine ⟨?_,hs.seen,hs.sampled⟩
    split_ifs
    · exact .inr rfl
    · exact hs.writer
  | clearsBit =>
    refine ⟨?_,hs.seen,hs.sampled⟩
    split_ifs
    · exact .inl rfl
    · exact hs.writer
  | enters => exact ⟨hs.writer,fun w hw => (by cases hw),fun md unsent hp => (by cases hp)⟩
  | samples =>
    refine ⟨hs.writer,hs.seen,fun md unsent hp => ?_⟩
    cases hp
    split_ifs
    · exact .inr rfl
    · exact .inl rfl
  | writes hheader =>
    refine ⟨hs.writer,hs.seen,fun md unsent hp => ?_⟩
    cases hp
    exact hs.sampled _ _ hheader
  | combines | finishes => exact ⟨hs.writer,hs.seen,fun md unsent hp => (by cases hp)⟩

theorem headerMode_inj {v w : SocketWriter} (hv : ValidBit v) (hw : ValidBit w)
    (h : v.headerMode = w.headerMode) : v = w := by
  obtain ⟨vmode,vbit⟩ := v
  obtain ⟨wmode,wbit⟩ := w
  rcases hv with rfl | rfl <;> rcases hw with rfl | rfl <;> cases vmode <;> cases wmode <;>
    first | rfl | exact absurd h (by decide)

theorem consistent_iff {seen : List SocketWriter} (hseen : ∀ w ∈ seen, ValidBit w)
    {w : SocketWriter} (hw : ValidBit w) : Consistent seen w.headerMode ↔ w ∈ seen := by
  constructor
  · rintro ⟨v,hv,heq⟩
    rwa [headerMode_inj hw (hseen v hv) heq]
  · exact fun hmem => ⟨w,hmem,rfl⟩

-- mode is read while a pair holds, and motion_bit then changes only to what has held with it
def ReadsTogether (s : State) : Event → Prop
  | .readMode _ _ => s.writer ∈ s.seen
  | .setBit => ∀ md unsent newMode motionDetected, s.header = .sampled md unsent →
      s.call = some (.locked newMode motionDetected) → motionDetected ≠ 0 →
      md = 1 ∧ ⟨.movie,2⟩ ∈ s.seen
  | .clearBit => ∀ md unsent, s.header = .sampled md unsent → s.call = some (.bitSet .idle) →
      md = 1 → ⟨.movie,0⟩ ∈ s.seen
  | _ => True

def Undisturbed (s : State) : Event → Prop
  | .readMode _ _ => s.call = none
  | .setBit => ∀ md unsent, s.header ≠ .sampled md unsent
  | .clearBit => ∀ md unsent, s.header ≠ .sampled md unsent
  | _ => True

theorem readsTogether_of_undisturbed {s : State} {e : Event} (hs : Base s) (h : Undisturbed s e) :
    ReadsTogether s e := by
  cases e with
  | readMode => exact hs.observed h
  | setBit => exact fun md unsent _ _ hheader => absurd hheader (h md unsent)
  | clearBit => exact fun md unsent hheader => absurd hheader (h md unsent)
  | callSetMode | assignMode | unlock | enterHeader | writeByte | readBit | writeMode => trivial

theorem setBit_consistent {seen : List SocketWriter} (hseen : ∀ w ∈ seen, MovieBit w)
    (hbits : ∀ w ∈ seen, ValidBit w) {md : UInt8} (hmd : md = 0 ∨ md = 1) :
    Consistent seen (md ||| 2) ↔ md = 1 ∧ ⟨.movie,2⟩ ∈ seen := by
  rcases hmd with rfl | rfl
  · refine iff_of_false (fun h => ?_) (fun h => absurd h.1 (by decide))
    have hidle := (consistent_iff hbits (w := ⟨.idle,2⟩) (.inr rfl)).mp h
    exact absurd (hseen _ hidle rfl) (by decide)
  · rw [and_iff_right rfl]
    exact consistent_iff hbits (w := ⟨.movie,2⟩) (.inr rfl)

theorem clearBit_consistent {s : State} (hs : Base s) (hb : Bits s) {md : UInt8}
    (hmd : md = 0 ∨ md = 1) (hpending : Consistent s.seen (md ||| s.writer.motionBit)) :
    Consistent s.seen (md ||| 0) ↔ (md = 1 → ⟨.movie,0⟩ ∈ s.seen) := by
  rcases hmd with rfl | rfl
  · refine iff_of_true ?_ (fun h => absurd h (by decide))
    have hidle := (consistent_iff hb.seen (w := ⟨.idle,s.writer.motionBit⟩) hb.writer).mp hpending
    have hbit := hs.seen ⟨.idle,s.writer.motionBit⟩ hidle rfl
    rwa [hbit] at hpending
  · rw [forall_prop_of_true rfl]
    exact consistent_iff hb.seen (w := ⟨.movie,0⟩) (.inl rfl)

theorem promised_observe {s : State} (h : Promised s) : Promised (observe s) := by
  cases hp : s.call with
  | none =>
    rw [observe_open hp]
    exact ⟨h.written,fun md hmd =>
      consistent_mono (fun w hw => List.mem_insert_of_mem hw) (h.pending md hmd)⟩
  | some place =>
    rw [observe_call hp]
    exact h

theorem pending_sampled {s : State} {md : UInt8} {unsent : List UInt8}
    (h : s.header = .sampled md unsent) : pending s = some (md ||| s.writer.motionBit) := by
  rw [pending,h]

theorem pending_combined {s : State} {md : UInt8} (h : s.header = .combined md) :
    pending s = some md := by
  rw [pending,h]

theorem pending_cases {s : State} {md : UInt8} (h : pending s = some md) :
    (∃ sampled unsent, s.header = .sampled sampled unsent ∧ md = sampled ||| s.writer.motionBit) ∨
      s.header = .combined md := by
  unfold pending at h
  split at h
  · next sampled unsent hp => exact .inl ⟨sampled,unsent,hp,(Option.some.inj h).symm⟩
  · next hp => exact .inr (by rw [hp,Option.some.inj h])
  · cases h

theorem promised_bit {s t : State} (h : Promised s) (hwritten : t.modeBytes = s.modeBytes)
    (hheader : t.header = s.header) (hseen : t.seen = s.seen)
    (hbit : ∀ md unsent, s.header = .sampled md unsent →
      Consistent s.seen (md ||| t.writer.motionBit)) : Promised t := by
  refine ⟨fun f hf => h.written f (hwritten ▸ hf),fun md hmd => ?_⟩
  rw [hseen]
  rcases pending_cases hmd with ⟨sampled,unsent,hp,rfl⟩ | hp
  · exact hbit sampled unsent (hheader ▸ hp)
  · exact h.pending md (pending_combined (hheader ▸ hp))

theorem promised_moved {s t : State} {e : Event} (hs : Base s) (hb : Bits s) (hp : Promised s)
    (hok : ReadsTogether s e) (h : Moved s e t) : Promised (observe t) := by
  refine promised_observe ?_
  cases h with
  | returns => exact hp
  | locks | assigns | unlocks => exact ⟨hp.written,hp.pending⟩
  | setsBit hcall =>
    refine promised_bit hp rfl rfl rfl (fun md unsent hheader => ?_)
    split_ifs with hmotion
    · exact (setBit_consistent hs.seen hb.seen (hb.sampled md unsent hheader)).mpr
        (hok md unsent _ _ hheader hcall hmotion)
    · exact hp.pending _ (pending_sampled hheader)
  | clearsBit hcall =>
    refine promised_bit hp rfl rfl rfl (fun md unsent hheader => ?_)
    split_ifs with hidle
    · exact (clearBit_consistent hs hb (hb.sampled md unsent hheader)
        (hp.pending _ (pending_sampled hheader))).mpr (hok md unsent hheader (hidle ▸ hcall))
    · exact hp.pending _ (pending_sampled hheader)
  | enters => exact ⟨hp.written,fun md hmd => by cases hmd⟩
  | samples =>
    refine ⟨hp.written,fun md hmd => ?_⟩
    cases hmd
    exact (consistent_iff hb.seen hb.writer).mpr hok
  | writes hheader =>
    refine ⟨hp.written,fun md hmd => ?_⟩
    cases hmd
    exact hp.pending _ (pending_sampled hheader)
  | combines hheader =>
    refine ⟨hp.written,fun md hmd => ?_⟩
    cases hmd
    exact hp.pending _ (pending_sampled hheader)
  | finishes hheader =>
    have hconsistent := hp.pending _ (pending_combined hheader)
    refine ⟨fun f hf => ?_,fun md hmd => by cases hmd⟩
    rcases List.mem_append.mp hf with hf | hf
    · exact hp.written f hf
    · rw [List.mem_singleton.mp hf]
      exact ⟨hconsistent,movie_of_motion hs.seen hconsistent⟩

theorem broken_moved {s t : State} {e : Event} (hs : Base s) (hb : Bits s) (hold : Promised s)
    (hbad : ¬ ReadsTogether s e) (h : Moved s e t) : ¬ Promised (observe t) := by
  intro hp
  cases h with
  | setsBit hcall =>
    refine hbad (fun md unsent newMode motionDetected hheader hcall' hmotion => ?_)
    obtain ⟨rfl,rfl⟩ := CallPlace.locked.inj (Option.some.inj (hcall.symm.trans hcall'))
    rw [observe_call rfl] at hp
    refine (setBit_consistent hs.seen hb.seen (hb.sampled md unsent hheader)).mp (hp.pending _ ?_)
    simp only [pending,hheader,if_pos hmotion]
  | clearsBit hcall =>
    refine hbad (fun md unsent hheader hcall' => ?_)
    obtain rfl := CallPlace.bitSet.inj (Option.some.inj (hcall.symm.trans hcall'))
    exact (clearBit_consistent hs hb (hb.sampled md unsent hheader)
      (hold.pending _ (pending_sampled hheader))).mp (hp.pending _ (pending_sampled hheader))
  | samples hheader =>
    rw [observe_settled (base_header hs _)] at hp
    exact hbad ((consistent_iff hb.seen hb.writer).mp (hp.pending _ rfl))
  | returns | locks | assigns | unlocks | enters | writes | combines | finishes =>
    exact hbad trivial

theorem snapshot_run (es : List Event) (s : State) (hrun : system.run es = some s) :
    system.Always Snapshot es ↔ system.Meets ReadsTogether es := by
  refine system.always_iff_meets (I := fun s => Base s ∧ Bits s ∧ Promised s) ?_ ?_ ?_ ?_ hrun
  · refine ⟨base_run system.run_nil,⟨.inl rfl,fun w hw => ?_,fun md unsent hp => (by cases hp)⟩,
      ⟨fun f hf => (by cases hf),fun md hmd => (by cases hmd)⟩⟩
    rw [List.mem_singleton.mp hw]
    exact .inl rfl
  · rintro s e t ⟨hs,hb,hp⟩ hok h
    obtain ⟨u,hu,rfl⟩ := system_moved h
    exact ⟨base_moved hs hu,bits_moved hb hu,promised_moved hs hb hp hok hu⟩
  · rintro s ⟨hs,-,hp⟩
    exact (snapshot_iff hs).mpr hp
  · rintro s e t ⟨hs,hb,hp⟩ hbad h hsnapshot
    obtain ⟨u,hu,rfl⟩ := system_moved h
    exact broken_moved hs hb hp hbad hu ((snapshot_iff (base_moved hs hu)).mp hsnapshot)

theorem header_snapshot_iff (es : List Event) (s : State) (hrun : system.run es = some s) :
    (system.Always Snapshot es ↔ system.Meets ReadsTogether es) ∧
    (system.Meets Undisturbed es → system.Always Snapshot es) := by
  have hiff := snapshot_run es s hrun
  refine ⟨hiff,fun hm => hiff.mpr (fun p e t hp ht => ?_)⟩
  exact readsTogether_of_undisturbed (base_run ht) (hm p e t hp ht)

def modeChange (newMode : Mode) (motionDetected : Int32) : List Event :=
  [.callSetMode newMode motionDetected,.setBit,.clearBit,.assignMode,.unlock]

def restOfHeader : List Event := List.replicate 12 .writeByte ++ [.readBit,.writeMode]

theorem modeChange_writer {s : State} {newMode : Mode} (motionDetected : Int32) (hcall : s.call = none)
    (hmode : s.writer.mode ≠ newMode) :
    ∃ t, system.after s (modeChange newMode motionDetected) = some t ∧ t.call = none ∧
      t.writer = s.writer.socketSetMode newMode motionDetected := by
  have hlock : system.step s (.callSetMode newMode motionDetected) =
      some { s with call := some (.locked newMode motionDetected) } := by
    simp only [system,move,hcall,if_neg hmode,Option.map_some]
    rfl
  rw [modeChange,Runs.System.after_cons,hlock,SocketWriter.socketSetMode,if_neg hmode]
  exact ⟨_,rfl,rfl,rfl⟩

theorem outputHeader_flatten (w : SocketWriter) (timeUnix : UInt64) (size : UInt32) :
    (w.outputHeader timeUnix size).flatten = headerBytes timeUnix size ++ [w.headerMode] := by
  simp only [SocketWriter.outputHeader,headerBytes,List.flatten_append,List.flatten_singleton,
    ← List.flatMap_def,← List.map_eq_flatMap]

theorem headerBytes_length (timeUnix : UInt64) (size : UInt32) :
    (headerBytes timeUnix size).length = 12 := by
  simp [headerBytes]

theorem undisturbed_header {s : State} (timeUnix : UInt64) (size : UInt32) (hs : Base s)
    (hcall : s.call = none) (hheader : s.header = .outside) :
    ∃ t, system.after s ([.enterHeader,.readMode timeUnix size] ++ restOfHeader) = some t ∧
      t.sent = s.sent ++ (s.writer.outputHeader timeUnix size).flatten := by
  let u : State := { s with
    header := .sampled (if s.writer.mode = .movie then 1 else 0) (headerBytes timeUnix size)
    seen := [s.writer] }
  have hsettled := hs.settled
  rw [hcall] at hsettled
  have hu : Base u := by
    refine ⟨fun _ => List.mem_singleton_self _,hs.settled,fun w hw => ?_⟩
    rw [List.mem_singleton.mp hw]
    exact hsettled
  have hsampled : system.after s [.enterHeader,.readMode timeUnix size] = some u := by
    simp [Runs.System.after_cons,system,move,moveHeader,hheader,observe,hcall,u]
  obtain ⟨t,ht,hsent,-⟩ := after_remaining hu
  rw [remaining,headerBytes_length] at ht
  refine ⟨t,?_,by rw [hsent,outputHeader_flatten]; rfl⟩
  rw [Runs.System.after_append,hsampled,Option.bind_some,restOfHeader]
  exact ht

def motionBeforeHeader : List Event :=
  modeChange .movie 1 ++ [.enterHeader,.readMode 1400000000000 5000] ++ restOfHeader

theorem header_snapshot_iff_motionBeforeHeader :
    (system.Always Snapshot motionBeforeHeader ↔ system.Meets ReadsTogether motionBeforeHeader) ∧
    (system.Meets Undisturbed motionBeforeHeader → system.Always Snapshot motionBeforeHeader) :=
  header_snapshot_iff motionBeforeHeader _ rfl

theorem motion_during_header :
    ¬ ∀ (es : List Event) (s : State), system.run es = some s → Written s := by
  intro h
  have hrun := h ([.enterHeader,.readMode 1400000000000 5000] ++ modeChange .movie 1 ++
    restOfHeader) _ rfl
  exact absurd (hrun (2,_) (List.mem_singleton_self _)).2 (by decide)

end VideoSurveillance.HeaderSnapshot
