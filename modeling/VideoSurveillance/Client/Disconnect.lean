import Mathlib.Logic.Function.Iterate
import VideoSurveillance.Client.ServerReader
import VideoSurveillance.Library.Runs

namespace VideoSurveillance.Disconnect

def END_OF_STREAM : UInt8 := 0xFF

structure State where
  reader : ServerReader.State
  pending : List UInt8
  closed : Bool
  deriving DecidableEq

inductive Event where
  | arrive (chunk : List UInt8)
  | hangUp
  | proceed
  deriving DecidableEq

def proceed (s : State) : Option State :=
  match s.reader.place, s.pending with
  | .dead _, _ => none
  | _, received :: rest =>
    some { s with reader := ServerReader.receive s.reader received, pending := rest }
  | .receiveImage _ _, [] => some s
  | _, [] =>
    if s.closed then some { s with reader := ServerReader.receive s.reader END_OF_STREAM } else none

def step (s : State) : Event → Option State
  | .arrive chunk => if s.closed then none else some { s with pending := s.pending ++ chunk }
  | .hangUp => some { s with closed := true }
  | .proceed => proceed s

def start (motion : Bool) : ServerReader.State := { ServerReader.start with motion := motion }

def system (motion : Bool) : Runs.System State Event where
  init := ⟨start motion,[],false⟩
  step := step

def arrived (events : List Event) : List UInt8 :=
  events.flatMap (fun e => match e with
    | .arrive chunk => chunk
    | _ => [])

def afterEnd (r : ServerReader.State) : ServerReader.State :=
  match r.place with
  | .receiveImage _ _ => r
  | _ => ServerReader.receive r END_OF_STREAM

theorem afterEnd_dead {r : ServerReader.State} {exception : ServerReader.RuntimeException}
    (h : r.place = .dead exception) : afterEnd r = r := by
  simp [afterEnd,ServerReader.receive,h]

theorem afterEnd_image {r : ServerReader.State} {header : ServerReader.Header} {image : List UInt8}
    (h : r.place = .receiveImage header image) : afterEnd r = r := by
  simp [afterEnd,h]

theorem proceed_cases {s t : State} (h : proceed s = some t) :
    (∃ received rest, s.pending = received :: rest ∧
      t = { s with reader := ServerReader.receive s.reader received, pending := rest }) ∨
    t = s ∨
    (s.pending = [] ∧ s.closed = true ∧ t = { s with reader := afterEnd s.reader }) := by
  obtain ⟨reader,pending,closed⟩ := s
  cases pending with
  | cons received rest =>
    left
    cases hp : reader.place <;> simp_all [proceed]
  | nil =>
    right
    cases hp : reader.place with
    | dead => simp [proceed,hp] at h
    | receiveImage =>
      left
      simpa [proceed,hp] using h.symm
    | awaitStartFlag | receiveHeader =>
      right
      simp only [proceed,hp] at h
      split_ifs at h with hclosed
      exact ⟨rfl,hclosed,by simpa [afterEnd,hp] using h.symm⟩

theorem proceed_reads {r : ServerReader.State} {received : UInt8} {rest : List UInt8} {closed : Bool}
    (h : ∀ exception, r.place ≠ .dead exception) :
    proceed ⟨r,received :: rest,closed⟩ = some ⟨ServerReader.receive r received,rest,closed⟩ := by
  cases hp : r.place with
  | dead exception => exact absurd hp (h exception)
  | awaitStartFlag | receiveHeader | receiveImage => simp [proceed,hp]

theorem proceed_closed {r : ServerReader.State} (h : ∀ exception, r.place ≠ .dead exception) :
    proceed ⟨r,[],true⟩ = some ⟨afterEnd r,[],true⟩ := by
  cases hp : r.place with
  | dead exception => exact absurd hp (h exception)
  | awaitStartFlag | receiveHeader | receiveImage => simp [proceed,afterEnd,hp]

theorem consumed_run {motion : Bool} {events : List Event} {s : State}
    (hrun : (system motion).run events = some s) :
    ∃ consumed m, consumed ++ s.pending = arrived events ∧
      s.reader = afterEnd^[m] (ServerReader.feed consumed (start motion)) ∧
      (m = 0 ∨ s.pending = [] ∧ s.closed = true) := by
  induction events using List.reverseRecOn generalizing s with
  | nil =>
    cases hrun
    exact ⟨[],0,rfl,rfl,.inl rfl⟩
  | append_singleton events e ih =>
    obtain ⟨t,ht,hstep⟩ := (system motion).run_snoc_some.mp hrun
    obtain ⟨consumed,m,hbytes,hreader,hm⟩ := ih ht
    rw [arrived,List.flatMap_append,← arrived,← hbytes,List.flatMap_singleton]
    cases e with
    | arrive chunk =>
      simp only [system,step] at hstep
      split_ifs at hstep with hclosed
      cases hstep
      have hzero : m = 0 := hm.resolve_right (fun h => hclosed h.2)
      exact ⟨consumed,m,(List.append_assoc _ _ _).symm,hreader,.inl hzero⟩
    | hangUp =>
      cases hstep
      exact ⟨consumed,m,(List.append_nil _).symm,hreader,hm.imp_right (fun h => ⟨h.1,rfl⟩)⟩
    | proceed =>
      rw [List.append_nil]
      rcases proceed_cases hstep with ⟨received,rest,hp,rfl⟩ | rfl | ⟨hp,hclosed,rfl⟩
      · obtain rfl : m = 0 := hm.resolve_right (fun h => by simp [hp] at h)
        refine ⟨consumed ++ [received],0,by simp [hp],?_,.inl rfl⟩
        rw [hreader,ServerReader.feed_append]
        rfl
      · exact ⟨consumed,m,rfl,hreader,hm⟩
      · refine ⟨consumed,m + 1,rfl,?_,.inr ⟨hp,hclosed⟩⟩
        rw [Function.iterate_succ_apply',← hreader]

def Dies (r : ServerReader.State) : Prop :=
  ∃ n exception, (afterEnd^[n] r).place = .dead exception

theorem dies_dead {r : ServerReader.State} {exception : ServerReader.RuntimeException}
    (h : r.place = .dead exception) : Dies r := ⟨0,exception,h⟩

theorem dies_afterEnd (r : ServerReader.State) : Dies (afterEnd r) ↔ Dies r := by
  constructor
  · rintro ⟨n,exception,h⟩
    exact ⟨n + 1,exception,h⟩
  · rintro ⟨n,exception,h⟩
    refine ⟨n,exception,?_⟩
    rw [← Function.iterate_succ_apply,Function.iterate_succ_apply',afterEnd_dead h]
    exact h

theorem dies_iterate (m : ℕ) (r : ServerReader.State) : Dies (afterEnd^[m] r) ↔ Dies r := by
  induction m with
  | zero => exact Iff.rfl
  | succ m ih => rw [Function.iterate_succ_apply',dies_afterEnd,ih]

theorem not_dies_image {r : ServerReader.State} {header : ServerReader.Header} {image : List UInt8}
    (h : r.place = .receiveImage header image) : ¬ Dies r := by
  rintro ⟨n,exception,hdead⟩
  rw [Function.iterate_fixed (afterEnd_image h) n,h] at hdead
  cases hdead

theorem afterEnd_awaitStartFlag {r : ServerReader.State} {i : ℕ} (h : r.place = .awaitStartFlag i) :
    ∃ j, afterEnd r = { r with place := .awaitStartFlag j } := by
  have hreset : ServerReader.nextStartFlagIndex i END_OF_STREAM = 0 := by
    rw [ServerReader.nextStartFlagIndex,if_neg]
    intro hflag
    exact absurd (List.mem_of_getElem? hflag) (by decide)
  refine ⟨0,?_⟩
  simp only [afterEnd,h,ServerReader.receive,hreset]
  rfl

theorem iterate_awaitStartFlag {r : ServerReader.State} {i : ℕ} (h : r.place = .awaitStartFlag i)
    (n : ℕ) : ∃ j, afterEnd^[n] r = { r with place := .awaitStartFlag j } := by
  induction n with
  | zero => exact ⟨i,by rw [← h]; rfl⟩
  | succ n ih =>
    obtain ⟨j,hj⟩ := ih
    rw [Function.iterate_succ_apply',hj]
    exact afterEnd_awaitStartFlag rfl

theorem not_dies_awaitStartFlag {r : ServerReader.State} {i : ℕ}
    (h : r.place = .awaitStartFlag i) : ¬ Dies r := by
  rintro ⟨n,exception,hdead⟩
  obtain ⟨j,hj⟩ := iterate_awaitStartFlag h n
  rw [hj] at hdead
  cases hdead

theorem feed_noFlag {i : ℕ} {bytes : List UInt8} (s : ServerReader.State)
    (h : ServerReader.awaitStartFlag i bytes = none) :
    ∃ j, ServerReader.feed bytes { s with place := .awaitStartFlag i } =
      { s with place := .awaitStartFlag j } := by
  induction bytes generalizing i with
  | nil => exact ⟨i,rfl⟩
  | cons b bytes ih =>
    rw [ServerReader.awaitStartFlag] at h
    split_ifs at h with hflag
    obtain ⟨j,hj⟩ := ih h
    refine ⟨j,?_⟩
    rw [ServerReader.feed_cons,ServerReader.receive]
    simp only [if_neg (Ne.symm hflag)]
    exact hj

theorem feed_shortHeader (received bytes : List UInt8) (s : ServerReader.State)
    (hlen : received.length + bytes.length < ServerReader.HEADER_SIZE) :
    ServerReader.feed bytes { s with place := .receiveHeader received } =
      { s with place := .receiveHeader (received ++ bytes) } := by
  induction bytes generalizing received with
  | nil => simp [ServerReader.feed]
  | cons b bytes ih =>
    have hshort : (received ++ [b]).length ≠ ServerReader.HEADER_SIZE := by
      simp only [List.length_append,List.length_cons,List.length_nil] at hlen ⊢
      omega
    rw [ServerReader.feed_cons,ServerReader.receive]
    simp only [if_neg hshort]
    rw [ih (received ++ [b]) (by simp at hlen ⊢; omega),List.append_assoc]
    rfl

theorem feed_shortImage (header : ServerReader.Header) (image bytes : List UInt8)
    (s : ServerReader.State) (hlen : image.length + bytes.length < header.imageSize.toNatClampNeg) :
    ServerReader.feed bytes { s with place := .receiveImage header image } =
      { s with place := .receiveImage header (image ++ bytes) } := by
  induction bytes generalizing image with
  | nil => simp [ServerReader.feed]
  | cons b bytes ih =>
    rw [List.length_cons] at hlen
    have hroom : image.length < header.imageSize.toNatClampNeg := by omega
    have hshort : (image ++ [b]).length ≠ header.imageSize.toNatClampNeg := by
      simp only [List.length_append,List.length_cons,List.length_nil]
      omega
    rw [ServerReader.feed_cons,ServerReader.receive]
    simp only [ServerReader.storeByte,if_pos hroom,if_neg hshort]
    rw [ih (image ++ [b]) (by simp; omega),List.append_assoc]
    rfl

theorem iterate_shortHeader (n : ℕ) (received : List UInt8) (s : ServerReader.State)
    (hlen : received.length + n < ServerReader.HEADER_SIZE) :
    afterEnd^[n] { s with place := .receiveHeader received } =
      { s with place := .receiveHeader (received ++ List.replicate n END_OF_STREAM) } := by
  induction n generalizing received with
  | zero => simp
  | succ n ih =>
    have hshort : (received ++ [END_OF_STREAM]).length ≠ ServerReader.HEADER_SIZE := by
      simp only [List.length_append,List.length_cons,List.length_nil]
      omega
    have hnext : afterEnd { s with place := .receiveHeader received } =
        { s with place := .receiveHeader (received ++ [END_OF_STREAM]) } := by
      simp only [afterEnd,ServerReader.receive,if_neg hshort]
    rw [Function.iterate_succ_apply,hnext,ih (received ++ [END_OF_STREAM]) (by simp; omega),
      List.append_assoc]
    rfl

theorem iterate_header (n : ℕ) (received : List UInt8) (s : ServerReader.State)
    (hlen : received.length + (n + 1) = ServerReader.HEADER_SIZE) :
    afterEnd^[n + 1] { s with place := .receiveHeader received } =
      ServerReader.parseHeader
        (ServerReader.headerOf (received ++ List.replicate (n + 1) END_OF_STREAM)) s := by
  have hfull : (received ++ List.replicate n END_OF_STREAM ++ [END_OF_STREAM]).length =
      ServerReader.HEADER_SIZE := by simpa [Nat.add_assoc] using hlen
  rw [Function.iterate_succ_apply',iterate_shortHeader n received s (by omega),
    List.replicate_succ',← List.append_assoc]
  simp only [afterEnd,ServerReader.receive,if_pos hfull]
  exact ServerReader.parseHeader_place _ s _

theorem read_pending {motion : Bool} {pending : List UInt8} {r : ServerReader.State} {closed : Bool}
    (h : ∀ exception, (ServerReader.feed pending r).place ≠ .dead exception) :
    (system motion).after ⟨r,pending,closed⟩ (List.replicate pending.length .proceed) =
      some ⟨ServerReader.feed pending r,[],closed⟩ := by
  induction pending generalizing r with
  | nil => rfl
  | cons received rest ih =>
    have halive : ∀ exception, r.place ≠ .dead exception := by
      intro exception hdead
      refine h exception ?_
      rw [ServerReader.feed_dead hdead]
      exact hdead
    have hstep : (system motion).step ⟨r,received :: rest,closed⟩ .proceed =
        some ⟨ServerReader.receive r received,rest,closed⟩ := proceed_reads halive
    rw [List.length_cons,List.replicate_succ,Runs.System.after_cons,hstep]
    exact ih h

theorem read_end {motion : Bool} {n : ℕ} {r : ServerReader.State}
    (h : ∀ exception, (afterEnd^[n] r).place ≠ .dead exception) :
    (system motion).after ⟨r,[],true⟩ (List.replicate (n + 1) .proceed) =
      some ⟨afterEnd^[n + 1] r,[],true⟩ := by
  induction n generalizing r with
  | zero =>
    have hstep : (system motion).step ⟨r,[],true⟩ .proceed = some ⟨afterEnd r,[],true⟩ :=
      proceed_closed h
    rw [List.replicate_succ,Runs.System.after_cons,hstep]
    rfl
  | succ n ih =>
    have halive : ∀ exception, r.place ≠ .dead exception := by
      intro exception hdead
      refine h exception ?_
      rw [Function.iterate_fixed (afterEnd_dead hdead) (n + 1)]
      exact hdead
    have hstep : (system motion).step ⟨r,[],true⟩ .proceed = some ⟨afterEnd r,[],true⟩ :=
      proceed_closed halive
    rw [List.replicate_succ,Runs.System.after_cons,hstep]
    exact ih h

def headerBytes (rest : List UInt8) : List UInt8 :=
  (rest ++ List.replicate ServerReader.HEADER_SIZE END_OF_STREAM).take ServerReader.HEADER_SIZE

def decoded (rest : List UInt8) : ServerReader.Header := ServerReader.headerOf (headerBytes rest)

theorem headerBytes_full {header : List UInt8} (body : List UInt8)
    (hlen : header.length = ServerReader.HEADER_SIZE) : headerBytes (header ++ body) = header := by
  rw [headerBytes,List.append_assoc]
  exact List.take_left' hlen

theorem headerBytes_cut {rest : List UInt8} {n : ℕ}
    (hlen : rest.length + n = ServerReader.HEADER_SIZE) :
    headerBytes rest = rest ++ List.replicate n END_OF_STREAM := by
  rw [headerBytes,List.take_append,List.take_of_length_le (by omega),List.take_replicate]
  congr 2
  omega

inductive Fatal : List UInt8 → Prop
  | negativeSize {bytes rest : List UInt8} : ServerReader.awaitStartFlag 0 bytes = some rest →
      ¬ (decoded rest).timestamp < 0 → (decoded rest).imageSize < 0 → Fatal bytes
  | emptyFrame {bytes rest : List UInt8} : ServerReader.awaitStartFlag 0 bytes = some rest →
      ¬ (decoded rest).timestamp < 0 → (decoded rest).imageSize = 0 →
      ServerReader.HEADER_SIZE < rest.length → Fatal bytes
  | discarded {bytes rest : List UInt8} : ServerReader.awaitStartFlag 0 bytes = some rest →
      (decoded rest).timestamp < 0 ∨ (decoded rest).imageSize > 100000000 →
      Fatal (rest.drop ServerReader.HEADER_SIZE) → Fatal bytes
  | frame {bytes rest : List UInt8} : ServerReader.awaitStartFlag 0 bytes = some rest →
      ¬ (decoded rest).timestamp < 0 → 0 < (decoded rest).imageSize →
      ¬ (decoded rest).imageSize > 100000000 →
      Fatal (rest.drop (ServerReader.HEADER_SIZE + (decoded rest).imageSize.toNatClampNeg)) →
      Fatal bytes

theorem not_fatal_nil : ¬ Fatal [] := by
  intro h
  cases h with
  | negativeSize hflag | emptyFrame hflag | discarded hflag | frame hflag => cases hflag

theorem size_limit_pos {size : Int32} (h : size > 100000000) : 0 < size := by
  have hbig : (100000000 : Int32).toInt = 100000000 := by decide
  rw [gt_iff_lt,Int32.lt_iff_toInt_lt,hbig] at h
  rw [Int32.lt_iff_toInt_lt,Int32.toInt_zero]
  omega

theorem size_sign (size : Int32) : size < 0 ∨ size = 0 ∨ 0 < size := by
  rw [Int32.lt_iff_toInt_lt,Int32.lt_iff_toInt_lt,← Int32.toInt_inj,Int32.toInt_zero]
  omega

theorem not_negative {size : Int32} (h : 0 < size ∨ size = 0) : ¬ size < 0 := by
  rw [Int32.lt_iff_toInt_lt,← Int32.toInt_inj,Int32.toInt_zero] at h
  rw [Int32.lt_iff_toInt_lt,Int32.toInt_zero]
  omega

theorem parseHeader_negative {header : ServerReader.Header} (s : ServerReader.State)
    (ht : ¬ header.timestamp < 0) (hsize : header.imageSize < 0) :
    (ServerReader.parseHeader header s).place = .dead .negativeArraySize := by
  have hlimit : ¬ header.imageSize > 100000000 :=
    fun h => not_negative (.inl (size_limit_pos h)) hsize
  simp only [ServerReader.parseHeader,if_neg ht,if_neg hlimit,if_pos hsize]

theorem parseHeader_image {header : ServerReader.Header} (s : ServerReader.State)
    (ht : ¬ header.timestamp < 0) (hlimit : ¬ header.imageSize > 100000000)
    (hsize : ¬ header.imageSize < 0) :
    ServerReader.parseHeader header s =
      { ServerReader.handleMode header.newMode s with place := .receiveImage header [] } := by
  simp only [ServerReader.parseHeader,if_neg ht,if_neg hlimit,if_neg hsize]

theorem dies_parseHeader (header : ServerReader.Header) (s : ServerReader.State) :
    Dies (ServerReader.parseHeader header s) ↔
      ¬ header.timestamp < 0 ∧ header.imageSize < 0 := by
  by_cases hdiscard : header.timestamp < 0 ∨ header.imageSize > 100000000
  · rw [ServerReader.parseHeader_discarded s hdiscard]
    refine iff_of_false (not_dies_awaitStartFlag rfl) ?_
    rintro ⟨ht,hsize⟩
    exact not_negative (.inl (size_limit_pos (hdiscard.resolve_left ht))) hsize
  · obtain ⟨ht,hlimit⟩ := not_or.mp hdiscard
    by_cases hsize : header.imageSize < 0
    · exact iff_of_true (dies_dead (parseHeader_negative s ht hsize)) ⟨ht,hsize⟩
    · rw [parseHeader_image s ht hlimit hsize]
      exact iff_of_false (not_dies_image rfl) (fun h => hsize h.2)

theorem dies_cutHeader {rest : List UInt8} (s : ServerReader.State)
    (hlen : rest.length < ServerReader.HEADER_SIZE) :
    Dies (ServerReader.feed rest { s with place := .receiveHeader [] }) ↔
      ¬ (decoded rest).timestamp < 0 ∧ (decoded rest).imageSize < 0 := by
  obtain ⟨n,hn⟩ : ∃ n, rest.length + (n + 1) = ServerReader.HEADER_SIZE :=
    ⟨ServerReader.HEADER_SIZE - rest.length - 1,by omega⟩
  rw [feed_shortHeader [] rest s (by simpa using hlen),List.nil_append,← dies_iterate (n + 1),
    iterate_header n rest s hn,dies_parseHeader,decoded,headerBytes_cut hn]

theorem fatal_drop_cut {rest : List UInt8} {n : ℕ} (hlen : rest.length ≤ n) :
    ¬ Fatal (rest.drop n) := by
  rw [List.drop_eq_nil_of_le hlen]
  exact not_fatal_nil

theorem fatal_iff {bytes rest : List UInt8}
    (hflag : ServerReader.awaitStartFlag 0 bytes = some rest) :
    Fatal bytes ↔
      (¬ (decoded rest).timestamp < 0 ∧ (decoded rest).imageSize < 0) ∨
      (¬ (decoded rest).timestamp < 0 ∧ (decoded rest).imageSize = 0 ∧
        ServerReader.HEADER_SIZE < rest.length) ∨
      (((decoded rest).timestamp < 0 ∨ (decoded rest).imageSize > 100000000) ∧
        Fatal (rest.drop ServerReader.HEADER_SIZE)) ∨
      (¬ (decoded rest).timestamp < 0 ∧ 0 < (decoded rest).imageSize ∧
        ¬ (decoded rest).imageSize > 100000000 ∧
        Fatal (rest.drop (ServerReader.HEADER_SIZE + (decoded rest).imageSize.toNatClampNeg))) := by
  constructor
  · intro h
    cases h with
    | negativeSize hflag' ht hsize =>
      obtain rfl := Option.some.inj (hflag.symm.trans hflag')
      exact .inl ⟨ht,hsize⟩
    | emptyFrame hflag' ht hsize hlen =>
      obtain rfl := Option.some.inj (hflag.symm.trans hflag')
      exact .inr (.inl ⟨ht,hsize,hlen⟩)
    | discarded hflag' h hrest =>
      obtain rfl := Option.some.inj (hflag.symm.trans hflag')
      exact .inr (.inr (.inl ⟨h,hrest⟩))
    | frame hflag' ht hpos hlimit hrest =>
      obtain rfl := Option.some.inj (hflag.symm.trans hflag')
      exact .inr (.inr (.inr ⟨ht,hpos,hlimit,hrest⟩))
  · rintro (⟨ht,hsize⟩ | ⟨ht,hsize,hlen⟩ | ⟨h,hrest⟩ | ⟨ht,hpos,hlimit,hrest⟩)
    · exact .negativeSize hflag ht hsize
    · exact .emptyFrame hflag ht hsize hlen
    · exact .discarded hflag h hrest
    · exact .frame hflag ht hpos hlimit hrest

theorem fatal_discarded {bytes rest : List UInt8}
    (hflag : ServerReader.awaitStartFlag 0 bytes = some rest)
    (h : (decoded rest).timestamp < 0 ∨ (decoded rest).imageSize > 100000000) :
    Fatal bytes ↔ Fatal (rest.drop ServerReader.HEADER_SIZE) := by
  refine ⟨fun hfatal => ?_,.discarded hflag h⟩
  have hpos : ¬ (decoded rest).timestamp < 0 → 0 < (decoded rest).imageSize :=
    fun ht => size_limit_pos (h.resolve_left ht)
  rcases (fatal_iff hflag).mp hfatal with ⟨ht,hsize⟩ | ⟨ht,hsize,-⟩ | ⟨-,hrest⟩ | ⟨ht,-,hlimit,-⟩
  · exact absurd hsize (not_negative (.inl (hpos ht)))
  · exact absurd (hsize ▸ hpos ht) (by decide)
  · exact hrest
  · exact absurd h (not_or.mpr ⟨ht,hlimit⟩)

theorem fatal_empty {bytes rest : List UInt8}
    (hflag : ServerReader.awaitStartFlag 0 bytes = some rest)
    (ht : ¬ (decoded rest).timestamp < 0) (hsize : (decoded rest).imageSize = 0) :
    Fatal bytes ↔ ServerReader.HEADER_SIZE < rest.length := by
  refine ⟨fun hfatal => ?_,.emptyFrame hflag ht hsize⟩
  have hpos : ¬ 0 < (decoded rest).imageSize := by rw [hsize]; decide
  rcases (fatal_iff hflag).mp hfatal with ⟨-,hneg⟩ | ⟨-,-,hlen⟩ | ⟨h,-⟩ | ⟨-,hpos',-⟩
  · exact absurd hneg (not_negative (.inr hsize))
  · exact hlen
  · exact absurd (size_limit_pos (h.resolve_left ht)) hpos
  · exact absurd hpos' hpos

theorem fatal_frame {bytes rest : List UInt8}
    (hflag : ServerReader.awaitStartFlag 0 bytes = some rest)
    (ht : ¬ (decoded rest).timestamp < 0) (hpos : 0 < (decoded rest).imageSize)
    (hlimit : ¬ (decoded rest).imageSize > 100000000) :
    Fatal bytes ↔ Fatal (rest.drop
      (ServerReader.HEADER_SIZE + (decoded rest).imageSize.toNatClampNeg)) := by
  refine ⟨fun hfatal => ?_,.frame hflag ht hpos hlimit⟩
  rcases (fatal_iff hflag).mp hfatal with ⟨-,hneg⟩ | ⟨-,hsize,-⟩ | ⟨h,-⟩ | ⟨-,-,-,hrest⟩
  · exact absurd hneg (not_negative (.inl hpos))
  · exact absurd (hsize ▸ hpos) (by decide)
  · exact absurd h (not_or.mpr ⟨ht,hlimit⟩)
  · exact hrest

theorem dies_image {header : ServerReader.Header} (body : List UInt8) (s : ServerReader.State)
    (hlen : body.length < header.imageSize.toNatClampNeg) :
    ¬ Dies (ServerReader.feed body { s with place := .receiveImage header [] }) := by
  rw [feed_shortImage header [] body s (by simpa using hlen)]
  exact not_dies_image rfl

theorem dies_emptyImage {header : ServerReader.Header} (hsize : header.imageSize = 0)
    (body : List UInt8) (s : ServerReader.State) :
    Dies (ServerReader.feed body { s with place := .receiveImage header [] }) ↔ body ≠ [] := by
  cases body with
  | nil => exact iff_of_false (not_dies_image rfl) (by simp)
  | cons b body =>
    have hdead : (ServerReader.receive { s with place := .receiveImage header [] } b).place =
        .dead .arrayIndexOutOfBounds := by
      simp [ServerReader.receive,ServerReader.storeByte,hsize]
    rw [ServerReader.feed_cons,ServerReader.feed_dead hdead]
    exact iff_of_true (dies_dead hdead) (by simp)

theorem feed_frame {header : ServerReader.Header} (body : List UInt8) (s : ServerReader.State)
    (hpos : 0 < header.imageSize) (hlen : header.imageSize.toNatClampNeg ≤ body.length) :
    ServerReader.feed body { s with place := .receiveImage header [] } =
      ServerReader.feed (body.drop header.imageSize.toNatClampNeg)
        (ServerReader.finish header (some (body.take header.imageSize.toNatClampNeg)) s) := by
  have hcount : (body.take header.imageSize.toNatClampNeg).length =
      header.imageSize.toNatClampNeg := List.length_take_of_le hlen
  have hne : body.take header.imageSize.toNatClampNeg ≠ [] := by
    intro hnil
    rw [hnil,List.length_nil,Int32.toNatClampNeg] at hcount
    rw [Int32.lt_iff_toInt_lt,Int32.toInt_zero] at hpos
    omega
  have hfeed := ServerReader.feed_image header [] (body.take header.imageSize.toNatClampNeg) s hne
    (by rw [hcount]; simp)
  rw [List.nil_append] at hfeed
  rw [← hfeed,← ServerReader.feed_append,List.take_append_drop]

theorem dies_fullHeader {bytes header body : List UInt8} (s : ServerReader.State)
    (hflag : ServerReader.awaitStartFlag 0 bytes = some (header ++ body))
    (hlen : header.length = ServerReader.HEADER_SIZE)
    (ih : ∀ (rest : List UInt8) (t : ServerReader.State), t.place = .awaitStartFlag 0 →
      rest.length ≤ body.length → (Dies (ServerReader.feed rest t) ↔ Fatal rest)) :
    Dies (ServerReader.feed (header ++ body) { s with place := .receiveHeader [] }) ↔
      Fatal bytes := by
  have hdecoded : decoded (header ++ body) = ServerReader.headerOf header := by
    rw [decoded,headerBytes_full body hlen]
  have hdrop : (header ++ body).drop ServerReader.HEADER_SIZE = body := by
    rw [← hlen,List.drop_left]
  rw [ServerReader.feed_full_header s hlen,← hdecoded]
  by_cases hdiscard : (decoded (header ++ body)).timestamp < 0 ∨
      (decoded (header ++ body)).imageSize > 100000000
  · rw [ServerReader.parseHeader_discarded s hdiscard,fatal_discarded hflag hdiscard,hdrop]
    exact ih body _ rfl le_rfl
  · obtain ⟨ht,hlimit⟩ := not_or.mp hdiscard
    rcases size_sign (decoded (header ++ body)).imageSize with hneg | hzero | hpos
    · have hdead := parseHeader_negative s ht hneg
      rw [ServerReader.feed_dead hdead]
      exact iff_of_true (dies_dead hdead) (.negativeSize hflag ht hneg)
    · rw [parseHeader_image s ht hlimit (not_negative (.inr hzero)),dies_emptyImage hzero,
        fatal_empty hflag ht hzero,List.length_append,hlen,← List.length_pos_iff]
      omega
    · rw [parseHeader_image s ht hlimit (not_negative (.inl hpos)),fatal_frame hflag ht hpos hlimit,
        ← List.drop_drop,hdrop]
      rcases lt_or_ge body.length (decoded (header ++ body)).imageSize.toNatClampNeg with hcut | hfull
      · exact iff_of_false (dies_image body _ hcut) (fatal_drop_cut hcut.le)
      · rw [feed_frame body _ hpos hfull]
        exact ih _ _ rfl (by rw [List.length_drop]; omega)

theorem awaitStartFlag_length {i : ℕ} {bytes rest : List UInt8}
    (h : ServerReader.awaitStartFlag i bytes = some rest) : rest.length < bytes.length := by
  induction bytes generalizing i with
  | nil => cases h
  | cons b bytes ih =>
    rw [ServerReader.awaitStartFlag] at h
    split_ifs at h
    · cases h
      exact Nat.lt_succ_self _
    · exact (ih h).trans (Nat.lt_succ_self _)

theorem dies_feed_iff (bytes : List UInt8) (s : ServerReader.State)
    (hs : s.place = .awaitStartFlag 0) : Dies (ServerReader.feed bytes s) ↔ Fatal bytes := by
  induction hn : bytes.length using Nat.strong_induction_on generalizing bytes s with
  | _ n ih =>
    have hstart : s = { s with place := .awaitStartFlag 0 } := by rw [← hs]
    rw [hstart]
    cases hflag : ServerReader.awaitStartFlag 0 bytes with
    | none =>
      obtain ⟨j,hj⟩ := feed_noFlag s hflag
      rw [hj]
      refine iff_of_false (not_dies_awaitStartFlag rfl) (fun h => ?_)
      cases h with
      | negativeSize h | emptyFrame h | discarded h | frame h => cases hflag.symm.trans h
    | some rest =>
      have hshorter := awaitStartFlag_length hflag
      rw [ServerReader.feed_awaitStartFlag s hflag]
      rcases lt_or_ge rest.length ServerReader.HEADER_SIZE with hcut | hfull
      · rw [dies_cutHeader s hcut,fatal_iff hflag]
        have hempty : ¬ ServerReader.HEADER_SIZE < rest.length := Nat.not_lt.mpr hcut.le
        have hdrop := fatal_drop_cut hcut.le
        have hdrop' := fatal_drop_cut (hcut.le.trans
          (Nat.le_add_right _ (decoded rest).imageSize.toNatClampNeg))
        simp only [hempty,hdrop,hdrop',and_false,or_false]
      · obtain ⟨header,body,rfl,hlen⟩ : ∃ header body, rest = header ++ body ∧
            header.length = ServerReader.HEADER_SIZE :=
          ⟨_,_,(List.take_append_drop ServerReader.HEADER_SIZE rest).symm,
            List.length_take_of_le hfull⟩
        refine dies_fullHeader s hflag hlen (fun rest t ht hle => ?_)
        rw [List.length_append] at hshorter
        exact ih rest.length (by omega) rest t ht rfl

def Leaves (motion : Bool) (s : State) : Prop :=
  ∃ n t exception, (system motion).after s (List.replicate n .proceed) = some t ∧
    t.reader.place = .dead exception

theorem dies_of_leaves {motion : Bool} {s : State} (h : Leaves motion s) :
    Dies (ServerReader.feed s.pending s.reader) := by
  obtain ⟨n,t,exception,hafter,hdead⟩ := h
  induction n generalizing s with
  | zero =>
    cases hafter
    rw [ServerReader.feed_dead hdead]
    exact dies_dead hdead
  | succ n ih =>
    obtain ⟨u,hu,hrest⟩ := Option.bind_eq_some_iff.mp hafter
    have hdies := ih hrest
    rcases proceed_cases hu with ⟨received,rest,hp,rfl⟩ | rfl | ⟨hp,-,rfl⟩
    · rw [hp]
      exact hdies
    · exact hdies
    · simp only [hp] at hdies ⊢
      exact (dies_afterEnd s.reader).mp hdies

theorem leaves_dead {motion : Bool} {s : State} {exception : ServerReader.RuntimeException}
    (h : s.reader.place = .dead exception) : Leaves motion s := ⟨0,s,exception,rfl,h⟩

theorem leaves_step {motion : Bool} {s t : State} (h : proceed s = some t) (ht : Leaves motion t) :
    Leaves motion s := by
  obtain ⟨n,u,exception,hafter,hdead⟩ := ht
  refine ⟨n + 1,u,exception,?_,hdead⟩
  have hstep : (system motion).step s .proceed = some t := h
  rw [List.replicate_succ,Runs.System.after_cons,hstep]
  exact hafter

theorem leaves_ended {motion : Bool} {r : ServerReader.State} (h : Dies r) :
    Leaves motion ⟨r,[],true⟩ := by
  obtain ⟨n,exception,hdead⟩ := h
  induction n generalizing r with
  | zero => exact leaves_dead hdead
  | succ n ih =>
    rcases em (∃ exception, r.place = .dead exception) with ⟨_,hnow⟩ | hnow
    · exact leaves_dead hnow
    · exact leaves_step (proceed_closed (not_exists.mp hnow)) (ih hdead)

theorem leaves_of_dies {motion : Bool} {r : ServerReader.State} {pending : List UInt8}
    (h : Dies (ServerReader.feed pending r)) : Leaves motion ⟨r,pending,true⟩ := by
  induction pending generalizing r with
  | nil => exact leaves_ended h
  | cons received rest ih =>
    rcases em (∃ exception, r.place = .dead exception) with ⟨_,hnow⟩ | hnow
    · exact leaves_dead hnow
    · exact leaves_step (proceed_reads (not_exists.mp hnow)) (ih h)

theorem leaves_iff_dies {motion : Bool} {events : List Event} {s : State}
    (hrun : (system motion).run events = some s) (hclosed : s.closed = true) :
    Leaves motion s ↔ Dies (ServerReader.feed (arrived events) (start motion)) := by
  obtain ⟨consumed,m,hbytes,hreader,hm⟩ := consumed_run hrun
  have hrest : Dies (ServerReader.feed s.pending s.reader) ↔
      Dies (ServerReader.feed (arrived events) (start motion)) := by
    rcases hm with rfl | ⟨hpending,-⟩
    · rw [hreader,← hbytes,ServerReader.feed_append]
      exact Iff.rfl
    · rw [← hbytes,hpending,List.append_nil,hreader]
      exact dies_iterate m _
  rw [← hrest]
  refine ⟨dies_of_leaves,fun h => ?_⟩
  have hs : s = ⟨s.reader,s.pending,true⟩ := by rw [← hclosed]
  rw [hs]
  exact leaves_of_dies h

theorem reader_stops_iff (motion : Bool) (events : List Event) (s : State)
    (hrun : (system motion).run events = some s) (hclosed : s.closed = true) :
    Leaves motion s ↔ Fatal (arrived events) := by
  rw [leaves_iff_dies hrun hclosed]
  exact dies_feed_iff _ _ rfl

def cutInSize : List UInt8 := ServerReader.START_FLAG ++ [0,0,1,0x60,0,0,0,0]

theorem reader_stops_iff_cutInSize :
    Leaves false ⟨start false,cutInSize,true⟩ ↔ Fatal cutInSize :=
  reader_stops_iff false [.arrive cutInSize,.hangUp] _ rfl rfl

theorem reader_polls_closed_stream :
    ¬ ∀ (motion : Bool) (events : List Event) (s : State),
      (system motion).run events = some s → s.closed = true → Leaves motion s := by
  intro h
  have hrun : (system false).run [.hangUp] = some ⟨start false,[],true⟩ := rfl
  have hdies := (leaves_iff_dies hrun rfl).mp (h false [.hangUp] _ hrun rfl)
  exact not_fatal_nil ((dies_feed_iff [] _ rfl).mp hdies)

end VideoSurveillance.Disconnect
