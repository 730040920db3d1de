import Mathlib.Tactic.IntervalCases
import VideoSurveillance.Client.ServerReader
import VideoSurveillance.Library.Runs
import VideoSurveillance.Server.SocketWriter

namespace VideoSurveillance.WireFormat

def layout (time : BitVec 64) (size : BitVec 32) (mode : UInt8) : List UInt8 :=
  (List.range 8).map (fun i => ⟨BigEndian.split 8 time i⟩) ++
  (List.range 4).map (fun i => ⟨BigEndian.split 4 size i⟩) ++ [mode]

theorem timestampOf_layout (time : BitVec 64) (size : BitVec 32) (mode : UInt8) :
    (ServerReader.timestampOf (layout time size mode)).toBitVec = time := by
  have hbytes : ∀ i, i < 8 →
      ((layout time size mode).getD i 0).toBitVec = BigEndian.split 8 time i := by
    intro i hi
    interval_cases i <;> rfl
  rw [ServerReader.timestampOf_join,BigEndian.join_congr hbytes]
  exact BigEndian.join_split (n := 8) time

theorem imageSizeOf_layout (time : BitVec 64) (size : BitVec 32) (mode : UInt8) :
    (ServerReader.imageSizeOf (layout time size mode)).toBitVec = size := by
  have hbytes : ∀ i, i < 4 →
      ((layout time size mode).getD (8 + i) 0).toBitVec = BigEndian.split 4 size i := by
    intro i hi
    interval_cases i <;> rfl
  rw [ServerReader.imageSizeOf_join,BigEndian.join_congr hbytes]
  exact BigEndian.join_split (n := 4) size

structure CapturedFrame where
  writer : SocketWriter
  timeUnix : UInt64
  data : List UInt8
  time_fits : timeUnix.toNat < 2 ^ 63
  data_nonempty : 1 ≤ data.length
  data_fits : data.length ≤ 100000000
  deriving DecidableEq

namespace CapturedFrame

def bytes (frame : CapturedFrame) : List UInt8 :=
  (frame.writer.captureAndOutputSocket frame.timeUnix frame.data).flatten

def header (frame : CapturedFrame) : ServerReader.Header where
  timestamp := frame.timeUnix.toInt64
  imageSize := (UInt32.ofNat frame.data.length).toInt32
  newMode := frame.writer.headerMode

def headerBytes (frame : CapturedFrame) : List UInt8 :=
  layout frame.timeUnix.toBitVec (UInt32.ofNat frame.data.length).toBitVec frame.writer.headerMode

theorem bytes_eq (frame : CapturedFrame) :
    frame.bytes = ServerReader.START_FLAG ++ (frame.headerBytes ++ frame.data) := by
  rw [bytes,SocketWriter.captureAndOutputSocket_bytes,SocketWriter.outputHeader_bytes,
    List.append_assoc]
  rfl

theorem headerOf_headerBytes (frame : CapturedFrame) :
    ServerReader.headerOf frame.headerBytes = frame.header := by
  have htime : ServerReader.timestampOf frame.headerBytes = frame.timeUnix.toInt64 :=
    Int64.toBitVec_inj.mp (timestampOf_layout _ _ _)
  have hsize : ServerReader.imageSizeOf frame.headerBytes =
      (UInt32.ofNat frame.data.length).toInt32 := Int32.toBitVec_inj.mp (imageSizeOf_layout _ _ _)
  rw [header,← htime,← hsize]
  rfl

theorem timestamp_toInt (frame : CapturedFrame) :
    frame.header.timestamp.toInt = frame.timeUnix.toNat := by
  have hfits := frame.time_fits
  exact BitVec.toInt_eq_toNat_of_lt (by change 2 * frame.timeUnix.toNat < 2 ^ 64; omega)

theorem imageSize_toInt (frame : CapturedFrame) :
    frame.header.imageSize.toInt = frame.data.length := by
  have hfits := frame.data_fits
  have hnat : (UInt32.ofNat frame.data.length).toNat = frame.data.length :=
    UInt32.toNat_ofNat_of_lt' (by rw [UInt32.size]; omega)
  have hint : frame.header.imageSize.toInt = (UInt32.ofNat frame.data.length).toNat :=
    BitVec.toInt_eq_toNat_of_lt (by change 2 * (UInt32.ofNat frame.data.length).toNat < 2 ^ 32; omega)
  rw [hint,hnat]

theorem imageSize_count (frame : CapturedFrame) :
    frame.header.imageSize.toNatClampNeg = frame.data.length := by
  rw [Int32.toNatClampNeg,frame.imageSize_toInt,Int.toNat_natCast]

theorem parseHeader_header (frame : CapturedFrame) (s : ServerReader.State) :
    ServerReader.parseHeader frame.header s =
      { ServerReader.handleMode frame.header.newMode s with
        place := .receiveImage frame.header [] } := by
  have htime : ¬ frame.header.timestamp < 0 := by
    rw [Int64.lt_iff_toInt_lt,timestamp_toInt,Int64.toInt_zero]
    omega
  have hlimit : ¬ frame.header.imageSize > 100000000 := by
    have hbig : (100000000 : Int32).toInt = 100000000 := by decide
    have hfits := frame.data_fits
    rw [gt_iff_lt,Int32.lt_iff_toInt_lt,imageSize_toInt,hbig]
    omega
  have hsize := frame.imageSize_toInt
  exact ServerReader.parseHeader_accepted s htime hlimit (by omega)

theorem feed_bytes (frame : CapturedFrame) (s : ServerReader.State)
    (hs : s.place = .awaitStartFlag 0) :
    ServerReader.feed frame.bytes s =
      ServerReader.finish frame.header (some frame.data)
        (ServerReader.handleMode frame.header.newMode s) := by
  have hstart : s = { s with place := .awaitStartFlag 0 } := by rw [← hs]
  have hnonempty := frame.data_nonempty
  have hflag : ServerReader.awaitStartFlag 0
      (ServerReader.START_FLAG ++ (frame.headerBytes ++ frame.data)) =
        some (frame.headerBytes ++ frame.data) := rfl
  rw [hstart,bytes_eq,ServerReader.feed_awaitStartFlag s hflag,
    ServerReader.feed_full_header s rfl,headerOf_headerBytes,
    parseHeader_header,ServerReader.feed_image]
  · rfl
  · intro hnil
    rw [hnil] at hnonempty
    cases hnonempty
  · rw [imageSize_count]
    simp

end CapturedFrame

structure State where
  reader : ServerReader.State
  pending : List UInt8
  deriving DecidableEq

inductive Event where
  | arrive (chunk : List UInt8)
  | readByte
  | sleep
  deriving DecidableEq

def step (s : State) : Event → Option State
  | .arrive chunk => some { s with pending := s.pending ++ chunk }
  | .readByte =>
    match s.reader.place with
    | .dead _ => none
    | _ =>
      match s.pending with
      | [] => none
      | received :: rest => some ⟨ServerReader.receive s.reader received,rest⟩
  | .sleep =>
    match s.reader.place with
    | .receiveImage _ _ => if s.pending.length = 0 then some s else none
    | _ => none

def system : Runs.System State Event where
  init := ⟨ServerReader.start,[]⟩
  step := step

def arrived (events : List Event) : List UInt8 :=
  events.flatMap (fun e => match e with
    | .arrive chunk => chunk
    | _ => [])

def stream (frames : List CapturedFrame) : List UInt8 := frames.flatMap CapturedFrame.bytes

def decode (read : ServerReader.Read) : Option (ℤ × UInt8 × List UInt8) :=
  read.image.map (fun image => (read.header.timestamp.toInt,read.header.newMode,image))

def sent (frame : CapturedFrame) : ℤ × UInt8 × List UInt8 :=
  (frame.timeUnix.toNat,frame.writer.headerMode,frame.data)

theorem feed_stream (frames : List CapturedFrame) (s : ServerReader.State)
    (hs : s.place = .awaitStartFlag 0) :
    (ServerReader.feed (stream frames) s).place = .awaitStartFlag 0 ∧
      (ServerReader.feed (stream frames) s).reads.map decode =
        s.reads.map decode ++ frames.map (fun frame => some (sent frame)) := by
  induction frames generalizing s with
  | nil => exact ⟨hs,by simp [stream,ServerReader.feed]⟩
  | cons frame frames ih =>
    obtain ⟨hplace,hreads⟩ := ih (ServerReader.finish frame.header (some frame.data)
      (ServerReader.handleMode frame.header.newMode s)) rfl
    have hdecode : decode ⟨frame.header,some frame.data⟩ = some (sent frame) := by
      rw [decode,sent,← frame.timestamp_toInt]
      rfl
    rw [stream,List.flatMap_cons,← stream,ServerReader.feed_append,frame.feed_bytes s hs]
    refine ⟨hplace,hreads.trans ?_⟩
    rw [ServerReader.finish,List.map_append,List.map_singleton,hdecode,List.append_assoc]
    rfl

theorem step_readByte {s t : State} (h : step s .readByte = some t) :
    ∃ received rest, s.pending = received :: rest ∧
      t = ⟨ServerReader.receive s.reader received,rest⟩ := by
  simp only [step] at h
  split at h
  · cases h
  · split at h
    · cases h
    · next received rest hpending =>
      cases h
      exact ⟨received,rest,hpending,rfl⟩

theorem step_sleep {s t : State} (h : step s .sleep = some t) : t = s := by
  simp only [step] at h
  split at h
  · split_ifs at h
    exact (Option.some.inj h).symm
  · cases h

theorem readByte_alive {reader : ServerReader.State} {received : UInt8} {rest : List UInt8}
    (h : ∀ exception, reader.place ≠ .dead exception) :
    step ⟨reader,received :: rest⟩ .readByte = some ⟨ServerReader.receive reader received,rest⟩ := by
  simp only [step]

theorem consumed_run {events : List Event} {s : State} (hrun : system.run events = some s) :
    ∃ consumed, consumed ++ s.pending = arrived events ∧
      s.reader = ServerReader.feed consumed ServerReader.start := by
  induction events using List.reverseRecOn generalizing s with
  | nil =>
    cases hrun
    exact ⟨[],rfl,rfl⟩
  | append_singleton events e ih =>
    obtain ⟨t,ht,hstep⟩ := system.run_snoc_some.mp hrun
    obtain ⟨consumed,hbytes,hreader⟩ := ih ht
    rw [arrived,List.flatMap_append,← arrived,← hbytes,List.flatMap_singleton]
    cases e with
    | arrive chunk =>
      cases hstep
      exact ⟨consumed,by rw [List.append_assoc],hreader⟩
    | readByte =>
      obtain ⟨received,rest,hpending,rfl⟩ := step_readByte hstep
      refine ⟨consumed ++ [received],by simp [hpending],?_⟩
      rw [ServerReader.feed_append,← hreader]
      rfl
    | sleep =>
      rw [step_sleep hstep,List.append_nil]
      exact ⟨consumed,rfl,hreader⟩

theorem read_pending (pending : List UInt8) (reader : ServerReader.State)
    (h : (ServerReader.feed pending reader).place = .awaitStartFlag 0) :
    system.after ⟨reader,pending⟩ (List.replicate pending.length .readByte) =
      some ⟨ServerReader.feed pending reader,[]⟩ := by
  induction pending generalizing reader with
  | nil => rfl
  | cons received rest ih =>
    have halive : ∀ exception, reader.place ≠ .dead exception := by
      intro exception hdead
      rw [ServerReader.feed_dead hdead,hdead] at h
      cases h
    have hstep : system.step ⟨reader,received :: rest⟩ .readByte =
        some ⟨ServerReader.receive reader received,rest⟩ := readByte_alive halive
    rw [List.length_cons,List.replicate_succ,system.after_cons,hstep]
    exact ih _ h

theorem stream_round_trip (frames : List CapturedFrame) (events : List Event) (s : State)
    (hrun : system.run events = some s) (harrived : arrived events = stream frames) :
    ∃ t, system.after s (List.replicate s.pending.length .readByte) = some t ∧
      t.pending = [] ∧ t.reader.place = .awaitStartFlag 0 ∧
      t.reader.reads.map decode = frames.map (fun frame => some (sent frame)) := by
  obtain ⟨consumed,hbytes,hreader⟩ := consumed_run hrun
  obtain ⟨hplace,hreads⟩ := feed_stream frames ServerReader.start rfl
  have hall : ServerReader.feed s.pending s.reader =
      ServerReader.feed (stream frames) ServerReader.start := by
    rw [hreader,← ServerReader.feed_append,hbytes,harrived]
  refine ⟨_,read_pending s.pending s.reader (hall ▸ hplace),rfl,hall ▸ hplace,?_⟩
  rw [hall,hreads]
  rfl

def flagInPayload : CapturedFrame where
  writer := ⟨.movie,2⟩
  timeUnix := 1400000000000
  data := ServerReader.START_FLAG
  time_fits := by decide
  data_nonempty := by decide
  data_fits := by decide

theorem stream_round_trip_flagInPayload :
    ∃ t, system.after ⟨ServerReader.start,flagInPayload.bytes⟩
        (List.replicate flagInPayload.bytes.length .readByte) = some t ∧
      t.pending = [] ∧ t.reader.place = .awaitStartFlag 0 ∧
      t.reader.reads.map decode = [some (1400000000000,3,ServerReader.START_FLAG)] := by
  have h := stream_round_trip [flagInPayload] [.arrive (flagInPayload.bytes.take 12),
    .arrive (flagInPayload.bytes.drop 12)] ⟨ServerReader.start,flagInPayload.bytes⟩ rfl rfl
  exact h

end VideoSurveillance.WireFormat
