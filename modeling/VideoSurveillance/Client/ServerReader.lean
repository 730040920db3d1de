import VideoSurveillance.Library.BigEndian
import VideoSurveillance.Library.ResetMatcher

namespace VideoSurveillance.ServerReader

def START_FLAG : List UInt8 :=
  ['S','T','A','R','T','F','R','A','M','E'].map Char.toUInt8

def TIMESTAMP_SIZE : ℕ := 8
def IMAGE_SIZE_SIZE : ℕ := 4
def IMAGE_SIZE_INDEX : ℕ := TIMESTAMP_SIZE
def MODE_OF_OP_SIZE : ℕ := 1
def MODE_OF_OP_INDEX : ℕ := IMAGE_SIZE_INDEX + IMAGE_SIZE_SIZE
def HEADER_SIZE : ℕ := TIMESTAMP_SIZE + IMAGE_SIZE_SIZE + MODE_OF_OP_SIZE

structure Header where
  timestamp : Int64
  imageSize : Int32
  newMode : UInt8
  deriving DecidableEq

structure Read where
  header : Header
  image : Option (List UInt8)
  deriving DecidableEq

inductive RuntimeException where
  | negativeArraySize
  | arrayIndexOutOfBounds
  deriving DecidableEq, Repr

inductive Place where
  | awaitStartFlag (startFlagIndex : ℕ)
  | receiveHeader (header : List UInt8)
  | receiveImage (header : Header) (image : List UInt8)
  | dead (exception : RuntimeException)
  deriving DecidableEq

structure State where
  mode : UInt8
  motion : Bool
  place : Place
  headers : List (UInt8 × Bool)
  reads : List Read
  deriving DecidableEq

def start : State := ⟨0,false,.awaitStartFlag 0,[],[]⟩

def nextStartFlagIndex (startFlagIndex : ℕ) (received : UInt8) : ℕ :=
  if START_FLAG[startFlagIndex]? = some received then startFlagIndex + 1 else 0

def awaitStartFlag : ℕ → List UInt8 → Option (List UInt8)
  | _, [] => none
  | startFlagIndex, received :: rest =>
    if nextStartFlagIndex startFlagIndex received = START_FLAG.length then some rest
    else awaitStartFlag (nextStartFlagIndex startFlagIndex received) rest

def headerByte (header : List UInt8) (i : ℕ) : Int8 := (header.getD i 0).toInt8

def timestampShift (i : ℕ) : Int64 := Int64.ofNat ((TIMESTAMP_SIZE - 1 - i) * 8)

def timestampOf (header : List UInt8) : Int64 :=
  (List.range TIMESTAMP_SIZE).foldl (fun timestamp i =>
    timestamp ||| ((((headerByte header i).toInt64 &&& 0xFF) <<< timestampShift i) &&&
      (0xFF <<< timestampShift i))) 0

def imageSizeShift (i : ℕ) : Int32 := (Int32.ofNat IMAGE_SIZE_SIZE - 1 - Int32.ofNat i) * 8

def imageSizeOf (header : List UInt8) : Int32 :=
  (List.range' IMAGE_SIZE_INDEX IMAGE_SIZE_SIZE).foldl (fun imageSize i =>
    imageSize ||| ((((headerByte header i).toInt32 &&& 0xFF) <<< imageSizeShift i) &&&
      (0xFF <<< imageSizeShift i))) 0

def headerOf (header : List UInt8) : Header where
  timestamp := timestampOf header
  imageSize := imageSizeOf header
  newMode := header.getD MODE_OF_OP_INDEX 0

def motionDetected (newMode : UInt8) : Bool := 0x02 = newMode &&& 0x02

def announces (motion : Bool) (newMode : UInt8) : Bool :=
  motionDetected newMode && motionDetected newMode != motion

def nextMotion (motion : Bool) (newMode : UInt8) : Bool :=
  if announces motion newMode then true
  else if motion ∧ 0 = newMode &&& 0x01 then false
  else motion

def handleMode (newMode : UInt8) (s : State) : State :=
  { s with
    mode := if announces s.motion newMode then newMode else s.mode
    motion := nextMotion s.motion newMode
    headers := s.headers ++ [(newMode,announces s.motion newMode)] }

def finish (header : Header) (image : Option (List UInt8)) (s : State) : State :=
  { s with place := .awaitStartFlag 0, reads := s.reads ++ [⟨header,image⟩] }

def parseHeader (header : Header) (s : State) : State :=
  let s := handleMode header.newMode s
  if header.timestamp < 0 then finish header none s
  else if header.imageSize > 100000000 then finish header none s
  else if header.imageSize < 0 then { s with place := .dead .negativeArraySize }
  else { s with place := .receiveImage header [] }

def storeByte (header : Header) (image : List UInt8) (received : UInt8) (s : State) : State :=
  if image.length < header.imageSize.toNatClampNeg then
    let image := image ++ [received]
    if image.length = header.imageSize.toNatClampNeg then finish header (some image) s
    else { s with place := .receiveImage header image }
  else { s with place := .dead .arrayIndexOutOfBounds }

def receive (s : State) (received : UInt8) : State :=
  match s.place with
  | .awaitStartFlag startFlagIndex =>
    let startFlagIndex := nextStartFlagIndex startFlagIndex received
    if START_FLAG.length = startFlagIndex then { s with place := .receiveHeader [] }
    else { s with place := .awaitStartFlag startFlagIndex }
  | .receiveHeader header =>
    let header := header ++ [received]
    if header.length = HEADER_SIZE then parseHeader (headerOf header) s
    else { s with place := .receiveHeader header }
  | .receiveImage header image => storeByte header image received s
  | .dead _ => s

def feed (bytes : List UInt8) (s : State) : State := bytes.foldl receive s

theorem awaitStartFlag_scan (i : ℕ) (bytes : List UInt8) :
    awaitStartFlag i bytes = ResetMatcher.scan START_FLAG i bytes := by
  induction bytes generalizing i with
  | nil => rfl
  | cons received rest ih =>
    rw [awaitStartFlag,ih]
    rfl

theorem startFlag_headOnce : ResetMatcher.HeadOnce START_FLAG 'S'.toUInt8 START_FLAG.tail :=
  ⟨rfl,by decide⟩

theorem resynchronises_iff (g w : List UInt8) (h : ResetMatcher.FirstAt START_FLAG g w) :
    awaitStartFlag 0 (g ++ START_FLAG ++ w) = some w ↔
      ∃ n, Even n ∧ ResetMatcher.BackToBack START_FLAG n g := by
  rw [awaitStartFlag_scan]
  exact ResetMatcher.scan_first_iff startFlag_headOnce h

theorem resynchronises_iff_noise :
    awaitStartFlag 0 ([0x53,0x54,0x53,0x41] ++ START_FLAG ++ [7]) = some [7] ↔
      ∃ n, Even n ∧ ResetMatcher.BackToBack START_FLAG n [0x53,0x54,0x53,0x41] :=
  resynchronises_iff [0x53,0x54,0x53,0x41] [7] (by decide)

theorem flag_after_S_skipped :
    ¬ ∀ g w : List UInt8, ResetMatcher.FirstAt START_FLAG g w →
      awaitStartFlag 0 (g ++ START_FLAG ++ w) = some w := by
  intro h
  have hskip := h [0x53] [] (by decide)
  exact absurd hskip (by decide)

theorem timestampOf_join (header : List UInt8) :
    (timestampOf header).toBitVec = BigEndian.join 64 8 (fun i => (header.getD i 0).toBitVec) := rfl

theorem imageSizeOf_join (header : List UInt8) :
    (imageSizeOf header).toBitVec =
      BigEndian.join 32 4 (fun i => (header.getD (8 + i) 0).toBitVec) := rfl

theorem feed_append (xs ys : List UInt8) (s : State) : feed (xs ++ ys) s = feed ys (feed xs s) :=
  List.foldl_append ..

theorem feed_cons (b : UInt8) (bytes : List UInt8) (s : State) :
    feed (b :: bytes) s = feed bytes (receive s b) := rfl

theorem feed_awaitStartFlag {i : ℕ} {bytes rest : List UInt8} (s : State)
    (h : awaitStartFlag i bytes = some rest) :
    feed bytes { s with place := .awaitStartFlag i } =
      feed rest { s with place := .receiveHeader [] } := by
  induction bytes generalizing i with
  | nil => cases h
  | cons b bytes ih =>
    rw [feed_cons,receive]
    rw [awaitStartFlag] at h
    split_ifs at h with hflag
    · cases h
      simp only [if_pos hflag.symm]
    · simp only [if_neg (Ne.symm hflag)]
      exact ih h

theorem feed_flag {rest : List UInt8} (s : State) (hs : s.place = .awaitStartFlag 0) :
    feed (START_FLAG ++ rest) s =
      feed rest { s with place := .receiveHeader [] } := by
  have hstart : s = { s with place := .awaitStartFlag 0 } := by rw [← hs]
  rw [hstart]
  exact feed_awaitStartFlag s rfl

theorem parseHeader_place (header : Header) (s : State) (p : Place) :
    parseHeader header { s with place := p } = parseHeader header s := rfl

theorem parseHeader_headers (header : Header) (s : State) :
    (parseHeader header s).headers =
      s.headers ++ [(header.newMode,announces s.motion header.newMode)] := by
  simp only [parseHeader]
  split_ifs <;> rfl

theorem parseHeader_motion (header : Header) (s : State) :
    (parseHeader header s).motion = nextMotion s.motion header.newMode := by
  simp only [parseHeader]
  split_ifs <;> rfl

theorem feed_header (received bytes : List UInt8) (s : State) (hne : bytes ≠ [])
    (hlen : received.length + bytes.length = HEADER_SIZE) :
    feed bytes { s with place := .receiveHeader received } =
      parseHeader (headerOf (received ++ bytes)) s := by
  induction bytes generalizing received with
  | nil => exact absurd rfl hne
  | cons b bytes ih =>
    rw [feed_cons,receive]
    cases bytes with
    | nil =>
      simp only [if_pos (show (received ++ [b]).length = HEADER_SIZE by simpa using hlen)]
      exact parseHeader_place _ s _
    | cons c bytes =>
      have hshort : (received ++ [b]).length ≠ HEADER_SIZE := by
        simp only [List.length_append,List.length_cons,List.length_nil] at hlen ⊢
        omega
      simp only [if_neg hshort]
      rw [ih (received ++ [b]) (by simp) (by simp at hlen ⊢; omega),List.append_assoc]
      rfl

theorem feed_image (header : Header) (image bytes : List UInt8) (s : State) (hne : bytes ≠ [])
    (hlen : image.length + bytes.length = header.imageSize.toNatClampNeg) :
    feed bytes { s with place := .receiveImage header image } =
      finish header (some (image ++ bytes)) s := by
  induction bytes generalizing image with
  | nil => exact absurd rfl hne
  | cons b bytes ih =>
    rw [List.length_cons] at hlen
    rw [feed_cons,receive]
    simp only [storeByte,if_pos (show image.length < header.imageSize.toNatClampNeg by omega)]
    cases bytes with
    | nil =>
      rw [if_pos (by simpa using hlen)]
      rfl
    | cons c bytes =>
      rw [if_neg (by simp only [List.length_append,List.length_cons,List.length_nil] at hlen ⊢; omega)]
      rw [ih (image ++ [b]) (by simp) (by simp at hlen ⊢; omega),List.append_assoc]
      rfl

theorem feed_dead {s : State} {exception : RuntimeException} (h : s.place = .dead exception)
    (bytes : List UInt8) : feed bytes s = s := by
  induction bytes with
  | nil => rfl
  | cons b bytes ih =>
    rw [feed_cons,receive,h]
    exact ih

theorem msb_byte (b : UInt8) : b.toBitVec.msb = true ↔ 0x80 ≤ b := by
  rw [BitVec.msb_eq_decide,decide_eq_true_eq]
  exact Iff.rfl

theorem timestampOf_negative (header : List UInt8) :
    timestampOf header < 0 ↔ 0x80 ≤ header.getD 0 0 := by
  have hmsb := BigEndian.join_msb (n := 8) (by decide) (fun i => (header.getD i 0).toBitVec)
  rw [← msb_byte,← hmsb,← timestampOf_join,BitVec.msb_eq_toInt,decide_eq_true_eq]
  exact Int64.lt_iff_toInt_lt

theorem imageSizeOf_negative (header : List UInt8) :
    imageSizeOf header < 0 ↔ 0x80 ≤ header.getD 8 0 := by
  have hmsb := BigEndian.join_msb (n := 4) (by decide) (fun i => (header.getD (8 + i) 0).toBitVec)
  rw [← msb_byte,← hmsb,← imageSizeOf_join,BitVec.msb_eq_toInt,decide_eq_true_eq]
  exact Int32.lt_iff_toInt_lt

theorem imageSizeOf_zero (header : List UInt8) :
    imageSizeOf header = 0 ↔ ∀ i, i < 4 → header.getD (8 + i) 0 = 0 := by
  have hzero := BigEndian.join_eq_zero (n := 4) (fun i => (header.getD (8 + i) 0).toBitVec)
  rw [← Int32.toBitVec_inj,imageSizeOf_join]
  refine hzero.trans (forall₂_congr (fun i _ => ?_))
  rw [← UInt8.toBitVec_inj]
  rfl

def Completes (s : State) (header : List UInt8) (stream : ℕ → UInt8) : Prop :=
  ∃ (n : ℕ) (image : Option (List UInt8)),
    feed (header ++ (List.range n).map stream) { s with place := .receiveHeader [] } =
      finish (headerOf header) image (handleMode (headerOf header).newMode s) ∧
    (image = none ∧ n = 0 ∨
      image = some ((List.range n).map stream) ∧ (imageSizeOf header).toInt = n)

def Readable (header : List UInt8) : Prop :=
  0x80 ≤ header.getD 0 0 ∨ header.getD 8 0 < 0x80 ∧ ∃ i, i < 4 ∧ header.getD (8 + i) 0 ≠ 0

theorem readable_iff (header : List UInt8) :
    Readable header ↔ timestampOf header < 0 ∨ 0 < (imageSizeOf header).toInt := by
  have hsign : ¬ header.getD 8 0 < 0x80 ↔ imageSizeOf header < 0 := by
    rw [imageSizeOf_negative,UInt8.not_lt]
  have hzero : (∃ i, i < 4 ∧ header.getD (8 + i) 0 ≠ 0) ↔ imageSizeOf header ≠ 0 := by
    rw [ne_eq,imageSizeOf_zero]
    push Not
    rfl
  rw [Readable,← timestampOf_negative,hzero]
  refine or_congr_right ?_
  rw [← not_iff_not,not_and_or,hsign,not_not,Int32.lt_iff_toInt_lt,← Int32.toInt_inj,Int32.toInt_zero]
  omega

theorem feed_full_header (s : State) {header : List UInt8} (hlen : header.length = HEADER_SIZE)
    (bytes : List UInt8) :
    feed (header ++ bytes) { s with place := .receiveHeader [] } =
      feed bytes (parseHeader (headerOf header) s) := by
  have hne : header ≠ [] := by
    rintro rfl
    cases hlen
  rw [feed_append,feed_header [] header s hne (by simpa using hlen),List.nil_append]

theorem parseHeader_discarded {header : Header} (s : State)
    (h : header.timestamp < 0 ∨ header.imageSize > 100000000) :
    parseHeader header s = finish header none (handleMode header.newMode s) := by
  simp only [parseHeader]
  split_ifs with ht hi
  · rfl
  · rfl
  · exact absurd h (not_or.mpr ⟨ht,hi⟩)
  · exact absurd h (not_or.mpr ⟨ht,hi⟩)

theorem parseHeader_accepted {header : Header} (s : State) (ht : ¬ header.timestamp < 0)
    (hi : ¬ header.imageSize > 100000000) (hn : 0 ≤ header.imageSize.toInt) :
    parseHeader header s =
      { handleMode header.newMode s with place := .receiveImage header [] } := by
  have hsign : ¬ header.imageSize < 0 := by
    rw [Int32.lt_iff_toInt_lt,Int32.toInt_zero]
    omega
  simp only [parseHeader,if_neg ht,if_neg hi,if_neg hsign]

theorem parseHeader_unreadable {header : Header} (s : State) (ht : ¬ header.timestamp < 0)
    (hsize : header.imageSize.toInt ≤ 0) :
    (parseHeader header s).place = .dead .negativeArraySize ∨
      (parseHeader header s).place = .receiveImage header [] ∧
        header.imageSize.toNatClampNeg = 0 := by
  have hlimit : ¬ header.imageSize > 100000000 := by
    have hbig : (100000000 : Int32).toInt = 100000000 := by decide
    rw [gt_iff_lt,Int32.lt_iff_toInt_lt,hbig]
    omega
  rcases Int.lt_or_eq_of_le hsize with hneg | hzero
  · have hsign : header.imageSize < 0 := Int32.lt_iff_toInt_lt.mpr hneg
    left
    simp only [parseHeader,if_neg ht,if_neg hlimit,if_pos hsign]
  · right
    rw [parseHeader_accepted s ht hlimit (Int.le_of_eq hzero.symm),Int32.toNatClampNeg,hzero]
    exact ⟨rfl,rfl⟩

theorem unreadable_stuck {header : Header} (s : State) (ht : ¬ header.timestamp < 0)
    (hsize : header.imageSize.toInt ≤ 0) (bytes : List UInt8) :
    (feed bytes (parseHeader header s)).place ≠ .awaitStartFlag 0 := by
  rcases parseHeader_unreadable s ht hsize with hdead | ⟨hplace,hempty⟩
  · rw [feed_dead hdead,hdead]
    simp
  · cases bytes with
    | nil =>
      rw [feed,List.foldl_nil,hplace]
      simp
    | cons b bytes =>
      have hdead : (receive (parseHeader header s) b).place = .dead .arrayIndexOutOfBounds := by
        simp [receive,hplace,storeByte,hempty]
      rw [feed_cons,feed_dead hdead,hdead]
      simp

theorem not_completes {header : List UInt8} (s : State) (stream : ℕ → UInt8)
    (hlen : header.length = HEADER_SIZE) (hbad : ¬ Readable header) :
    ¬ Completes s header stream := by
  rintro ⟨n,image,hfeed,-⟩
  rw [readable_iff] at hbad
  obtain ⟨ht,hsize⟩ := not_or.mp hbad
  have hstuck : ∀ bytes, (feed bytes (parseHeader (headerOf header) s)).place ≠
      .awaitStartFlag 0 := unreadable_stuck s ht (Int.not_lt.mp hsize)
  rw [feed_full_header s hlen] at hfeed
  exact hstuck _ (congrArg State.place hfeed)

theorem completes_discarded {header : List UInt8} (s : State) (stream : ℕ → UInt8)
    (hlen : header.length = HEADER_SIZE)
    (h : timestampOf header < 0 ∨ imageSizeOf header > 100000000) :
    Completes s header stream := by
  have hparse : parseHeader (headerOf header) s =
      finish (headerOf header) none (handleMode (headerOf header).newMode s) :=
    parseHeader_discarded s h
  refine ⟨0,none,?_,.inl ⟨rfl,rfl⟩⟩
  rw [feed_full_header s hlen,hparse]
  rfl

theorem completes_accepted {header : List UInt8} (s : State) (stream : ℕ → UInt8)
    (hlen : header.length = HEADER_SIZE) (ht : ¬ timestampOf header < 0)
    (hlimit : ¬ imageSizeOf header > 100000000) (hpos : 0 < (imageSizeOf header).toInt) :
    Completes s header stream := by
  have hparse : parseHeader (headerOf header) s =
      { handleMode (headerOf header).newMode s with place := .receiveImage (headerOf header) [] } :=
    parseHeader_accepted s ht hlimit (Int.le_of_lt hpos)
  have hcount : (headerOf header).imageSize.toNatClampNeg = (imageSizeOf header).toInt.toNat := rfl
  refine ⟨(imageSizeOf header).toInt.toNat,_,?_,.inr ⟨rfl,by omega⟩⟩
  rw [feed_full_header s hlen,hparse,feed_image]
  · rfl
  · intro hnil
    have hlength := congrArg List.length hnil
    rw [List.length_map,List.length_range,List.length_nil] at hlength
    omega
  · rw [List.length_map,List.length_range,List.length_nil,hcount,Nat.zero_add]

theorem header_survived_iff (s : State) (header : Vector UInt8 HEADER_SIZE)
    (stream : ℕ → UInt8) :
    Completes s header.toList stream ↔ Readable header.toList := by
  constructor
  · intro h
    by_contra hbad
    exact not_completes s stream header.length_toList hbad h
  · intro hgood
    rw [readable_iff] at hgood
    by_cases hdiscard : timestampOf header.toList < 0 ∨ imageSizeOf header.toList > 100000000
    · exact completes_discarded s stream header.length_toList hdiscard
    · obtain ⟨ht,hlimit⟩ := not_or.mp hdiscard
      exact completes_accepted s stream header.length_toList ht hlimit (hgood.resolve_left ht)

def failedCapture : Vector UInt8 HEADER_SIZE := #v[0,0,1,0x60,0,0,0,0,0,0,0,0,0]

theorem empty_frame_kills_reader :
    ¬ ∀ (s : State) (header : Vector UInt8 HEADER_SIZE) (stream : ℕ → UInt8),
      Completes s header.toList stream := by
  intro h
  have hbad : ¬ Readable failedCapture.toList := by unfold Readable; decide
  exact not_completes start (fun _ => 0) failedCapture.length_toList hbad (h _ _ _)

end VideoSurveillance.ServerReader
