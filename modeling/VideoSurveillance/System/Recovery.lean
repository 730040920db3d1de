import VideoSurveillance.System.CutStream

namespace VideoSurveillance.Recovery
open ResetMatcher (Absent Partial)
open ServerReader (START_FLAG)
open WireFormat (CapturedFrame stream decode sent)

structure Quiet (bytes : List UInt8) : Prop where
  noFlag : ¬ START_FLAG <:+: bytes
  noneBegun : ∀ p, Partial START_FLAG p → ¬ p <:+ bytes

theorem Quiet.suffix {bytes rest : List UInt8} (h : Quiet bytes) (hsuffix : rest <:+ bytes) :
    Quiet rest where
  noFlag := fun hflag => h.noFlag (hflag.trans hsuffix.isInfix)
  noneBegun := fun p hp hend => h.noneBegun p hp (hend.trans hsuffix)

theorem Quiet.absent {bytes : List UInt8} (h : Quiet bytes) : Absent START_FLAG bytes :=
  fun _ hp hflag => h.noFlag (hflag.isInfix.trans hp.isInfix)

theorem quiet_of_notMem {bytes : List UInt8} (h : 'S'.toUInt8 ∉ bytes) : Quiet bytes where
  noFlag := fun hflag => h (hflag.subset (by decide))
  noneBegun := by
    rintro p ⟨hne,hstart,-⟩ hsuffix
    obtain ⟨b,q,rfl⟩ := List.exists_cons_of_ne_nil hne
    obtain ⟨rfl,-⟩ := List.cons_prefix_cons.mp hstart
    exact h (hsuffix.subset List.mem_cons_self)

theorem feed_scanning {k : ℕ} {bytes : List UInt8} (s : ServerReader.State)
    (h : ∀ p, p ≠ [] → p <+: bytes → ResetMatcher.after START_FLAG k p ≠ START_FLAG.length) :
    ServerReader.feed bytes { s with place := .awaitStartFlag k } =
      { s with place := .awaitStartFlag (ResetMatcher.after START_FLAG k bytes) } := by
  induction bytes generalizing k with
  | nil => rfl
  | cons b bytes ih =>
    have hb : START_FLAG.length ≠ ServerReader.nextStartFlagIndex k b :=
      (h [b] (by simp) (by simp)).symm
    rw [ServerReader.feed_cons,ServerReader.receive]
    simp only [if_neg hb]
    apply ih
    intro p _ hp
    exact h (b :: p) (by simp) (by simpa using hp)

theorem feed_quiet {bytes : List UInt8} (h : Quiet bytes) (s : ServerReader.State) :
    ServerReader.feed bytes { s with place := .awaitStartFlag 0 } =
      { s with place := .awaitStartFlag 0 } := by
  have hzero : ResetMatcher.after START_FLAG 0 bytes = 0 :=
    (ResetMatcher.after_backToBack ServerReader.startFlag_headOnce h.absent
      (.clear h.noneBegun)).mpr ⟨0,rfl⟩
  rw [feed_scanning s (fun p _ hp =>
    ResetMatcher.after_ne_length (ResetMatcher.absent_mono h.absent hp)),hzero]

theorem feed_headless {bytes : List UInt8} (h : 'S'.toUInt8 ∉ bytes) (s : ServerReader.State) :
    ServerReader.feed bytes { s with place := .awaitStartFlag 0 } =
      { s with place := .awaitStartFlag 0 } := feed_quiet (quiet_of_notMem h) s

-- with a flag begun, the 'S' of the next flag only resets the index
theorem feed_missed {k : ℕ} (hk : k ≠ 0) {rest : List UInt8} (h : Quiet rest)
    (s : ServerReader.State) :
    ServerReader.feed (START_FLAG ++ rest) { s with place := .awaitStartFlag k } =
      { s with place := .awaitStartFlag 0 } := by
  have hzero : ∀ p, p ≠ [] → p <+: START_FLAG → ResetMatcher.after START_FLAG k p = 0 :=
    fun _ => ResetMatcher.after_restart ServerReader.startFlag_headOnce hk
  have hnone : ∀ p, p ≠ [] → p <+: START_FLAG →
      ResetMatcher.after START_FLAG k p ≠ START_FLAG.length := by
    intro p hne hp
    rw [hzero p hne hp]
    decide
  have hscan := feed_scanning s hnone
  rw [ServerReader.feed_append,hscan,hzero START_FLAG (by decide) (List.prefix_refl _),
    feed_quiet h]

def body (frame : CapturedFrame) : List UInt8 := frame.headerBytes ++ frame.data

theorem bytes_body (frame : CapturedFrame) : frame.bytes = START_FLAG ++ body frame :=
  frame.bytes_eq

theorem feed_torn {frame : CapturedFrame} (h : Quiet (body frame)) {n : ℕ} (hn : n ≠ 0)
    (s : ServerReader.State) :
    ServerReader.feed (frame.bytes.drop n) { s with place := .awaitStartFlag 0 } =
      { s with place := .awaitStartFlag 0 } := by
  rw [bytes_body,List.drop_append,ServerReader.feed_append,feed_headless]
  · exact feed_quiet (h.suffix (List.drop_suffix _ _)) s
  · intro hmem
    obtain ⟨m,rfl⟩ := Nat.exists_eq_succ_of_ne_zero hn
    exact ServerReader.startFlag_headOnce.once (List.mem_of_mem_drop hmem)

theorem stream_cons (frame : CapturedFrame) (frames : List CapturedFrame) :
    stream (frame :: frames) = frame.bytes ++ stream frames := List.flatMap_cons

theorem feed_dropped {frames : List CapturedFrame} (h : ∀ f ∈ frames, Quiet (body f)) (n : ℕ) :
    ∃ lost kept, frames = lost ++ kept ∧ (stream lost.dropLast).length ≤ n ∧
      ∀ s : ServerReader.State,
        ServerReader.feed ((stream frames).drop n) { s with place := .awaitStartFlag 0 } =
          ServerReader.feed (stream kept) { s with place := .awaitStartFlag 0 } := by
  induction frames generalizing n with
  | nil => exact ⟨[],[],rfl,Nat.zero_le n,fun s => by rw [stream,List.flatMap_nil,List.drop_nil]⟩
  | cons frame frames ih =>
    obtain ⟨hframe,hframes⟩ := List.forall_mem_cons.mp h
    rcases Nat.eq_zero_or_pos n with rfl | hpos
    · exact ⟨[],frame :: frames,rfl,Nat.le_refl 0,fun s => rfl⟩
    rcases Nat.lt_or_ge n frame.bytes.length with hlt | hge
    · refine ⟨[frame],frames,rfl,Nat.zero_le n,fun s => ?_⟩
      rw [stream_cons,List.drop_append_of_le_length hlt.le,ServerReader.feed_append,
        feed_torn hframe (Nat.pos_iff_ne_zero.mp hpos)]
    · obtain ⟨lost,kept,rfl,hlost,hfeed⟩ := ih hframes (n - frame.bytes.length)
      refine ⟨frame :: lost,kept,rfl,?_,fun s => ?_⟩
      · cases lost with
        | nil => exact Nat.zero_le n
        | cons f lost =>
          rw [List.dropLast_cons_of_ne_nil (List.cons_ne_nil f lost),stream_cons,
            List.length_append]
          omega
      · rw [stream_cons,List.drop_append,List.drop_eq_nil_of_le hge,List.nil_append]
        exact hfeed s

def IMAGE_LIMIT : ℕ := 100000000

structure Recovered (bound : ℕ) (frames : List CapturedFrame) (before : List ServerReader.Read)
    (lost kept : List CapturedFrame) (torn : List ServerReader.Read) (t : ServerReader.State) :
    Prop where
  split : frames = lost ++ kept
  swallowed : (stream lost.dropLast).length ≤ bound
  one_torn : torn.length ≤ 1
  reads : t.reads.map decode =
    before.map decode ++ (torn.map decode ++ kept.map (fun f => some (sent f)))
  waiting : bound < (stream frames).length → t.place = .awaitStartFlag 0

def Recovers (bound : ℕ) (frames : List CapturedFrame) (before : List ServerReader.Read)
    (t : ServerReader.State) : Prop :=
  ∃ lost kept torn, Recovered bound frames before lost kept torn t

theorem Recovers.mono {bound bound' : ℕ} {frames : List CapturedFrame}
    {before : List ServerReader.Read} {t : ServerReader.State}
    (h : Recovers bound frames before t) (hle : bound ≤ bound') :
    Recovers bound' frames before t := by
  obtain ⟨lost,kept,torn,h⟩ := h
  exact ⟨lost,kept,torn,h.split,h.swallowed.trans hle,h.one_torn,h.reads,
    fun hlong => h.waiting (hle.trans_lt hlong)⟩

theorem reads_kept (kept : List CapturedFrame) (s : ServerReader.State) :
    (ServerReader.feed (stream kept) { s with place := .awaitStartFlag 0 }).place =
        .awaitStartFlag 0 ∧
      (ServerReader.feed (stream kept) { s with place := .awaitStartFlag 0 }).reads.map decode =
        s.reads.map decode ++ kept.map (fun f => some (sent f)) :=
  WireFormat.feed_stream kept _ rfl

theorem recovers_scanning {frames : List CapturedFrame} (h : ∀ f ∈ frames, Quiet (body f))
    (k : ℕ) (s : ServerReader.State) :
    Recovers 0 frames s.reads
      (ServerReader.feed (stream frames) { s with place := .awaitStartFlag k }) := by
  rcases eq_or_ne k 0 with rfl | hk
  · obtain ⟨hplace,hreads⟩ := reads_kept frames s
    exact ⟨[],frames,[],rfl,Nat.le_refl 0,Nat.zero_le 1,hreads,fun _ => hplace⟩
  · cases frames with
    | nil =>
      refine ⟨[],[],[],rfl,Nat.le_refl 0,Nat.zero_le 1,?_,nofun⟩
      exact (List.append_nil _).symm
    | cons frame frames =>
      obtain ⟨hplace,hreads⟩ := reads_kept frames s
      rw [stream_cons,bytes_body,ServerReader.feed_append,
        feed_missed hk (h frame List.mem_cons_self)]
      exact ⟨[frame],frames,[],rfl,Nat.le_refl 0,Nat.zero_le 1,hreads,fun _ => hplace⟩

theorem length_dropLast (frames : List CapturedFrame) :
    (stream frames.dropLast).length ≤ (stream frames).length := by
  obtain ⟨last,hlast⟩ := List.dropLast_prefix frames
  nth_rewrite 2 [← hlast]
  rw [stream,stream,List.flatMap_append,List.length_append]
  exact Nat.le_add_right _ _

theorem recovers_short {bound : ℕ} {frames : List CapturedFrame} {before : List ServerReader.Read}
    {t : ServerReader.State} (hshort : (stream frames).length ≤ bound) (hreads : t.reads = before) :
    Recovers bound frames before t := by
  refine ⟨frames,[],[],(List.append_nil frames).symm,(length_dropLast frames).trans hshort,
    Nat.zero_le 1,?_,fun hlong => absurd hlong (Nat.not_lt.mpr hshort)⟩
  rw [hreads]
  exact (List.append_nil _).symm

-- one read is finished with foreign bytes, then the reader looks for a flag in the n-th byte
theorem recovers_finished {frames : List CapturedFrame} (h : ∀ f ∈ frames, Quiet (body f)) (n : ℕ)
    (header : ServerReader.Header) (image : Option (List UInt8)) (s : ServerReader.State) :
    Recovers n frames s.reads
      (ServerReader.feed ((stream frames).drop n) (ServerReader.finish header image s)) := by
  obtain ⟨lost,kept,hsplit,hlost,hdrop⟩ := feed_dropped h n
  obtain ⟨hplace,hreads⟩ := reads_kept kept { s with reads := s.reads ++ [⟨header,image⟩] }
  have hfeed : ServerReader.feed ((stream frames).drop n) (ServerReader.finish header image s) =
      ServerReader.feed (stream kept)
        { s with place := .awaitStartFlag 0, reads := s.reads ++ [⟨header,image⟩] } :=
    hdrop { s with reads := s.reads ++ [⟨header,image⟩] }
  rw [hfeed]
  refine ⟨lost,kept,[⟨header,image⟩],hsplit,hlost,Nat.le_refl 1,?_,fun _ => hplace⟩
  rw [hreads,List.map_append,List.append_assoc]

theorem recovers_image {frames : List CapturedFrame} (h : ∀ f ∈ frames, Quiet (body f)) (m : ℕ)
    {n : ℕ} (hn : n ≠ 0) (header : ServerReader.Header) (image : List UInt8)
    (s : ServerReader.State) (hsize : image.length + n = header.imageSize.toNatClampNeg) :
    Recovers (m + n) frames s.reads (ServerReader.feed ((stream frames).drop m)
      { s with place := .receiveImage header image }) := by
  rcases Nat.lt_or_ge ((stream frames).drop m).length n with hlt | hge
  · rw [Disconnect.feed_shortImage header image _ s (by omega)]
    rw [List.length_drop] at hlt
    exact recovers_short (by omega) rfl
  · have htake : (((stream frames).drop m).take n).length = n := List.length_take_of_le hge
    have hne : ((stream frames).drop m).take n ≠ [] := by
      intro hnil
      rw [hnil] at htake
      exact hn htake.symm
    rw [← List.take_append_drop n ((stream frames).drop m),ServerReader.feed_append,
      ServerReader.feed_image header image _ s hne (by rw [htake,hsize]),List.drop_drop]
    exact recovers_finished h (m + n) header _ s

theorem recovers_parsed {frames : List CapturedFrame} (h : ∀ f ∈ frames, Quiet (body f)) (m : ℕ)
    (header : ServerReader.Header) (s : ServerReader.State)
    {t : ServerReader.State}
    (ht : t = ServerReader.feed ((stream frames).drop m) (ServerReader.parseHeader header s)) :
    (∃ exception, t.place = .dead exception) ∨ Recovers (m + IMAGE_LIMIT) frames s.reads t := by
  by_cases hdiscarded : header.timestamp < 0 ∨ header.imageSize > 100000000
  · right
    rw [ht,ServerReader.parseHeader_discarded s hdiscarded]
    exact (recovers_finished h m header none (ServerReader.handleMode header.newMode s)).mono
      (Nat.le_add_right m IMAGE_LIMIT)
  obtain ⟨htime,hlimit⟩ := not_or.mp hdiscarded
  rcases Int.lt_or_le 0 header.imageSize.toInt with hpos | hnonpos
  · right
    have hbound : header.imageSize.toNatClampNeg ≤ IMAGE_LIMIT := by
      have hbig : (100000000 : Int32).toInt = 100000000 := by decide
      rw [gt_iff_lt,Int32.lt_iff_toInt_lt,hbig] at hlimit
      rw [Int32.toNatClampNeg,IMAGE_LIMIT]
      omega
    have hne : header.imageSize.toNatClampNeg ≠ 0 := by
      rw [Int32.toNatClampNeg]
      omega
    rw [ht,ServerReader.parseHeader_accepted s htime hlimit (Int.le_of_lt hpos)]
    exact (recovers_image h m hne header [] (ServerReader.handleMode header.newMode s)
      (Nat.zero_add _)).mono (Nat.add_le_add_left hbound m)
  · rcases ServerReader.parseHeader_unreadable s htime hnonpos with hdead | ⟨hplace,hempty⟩
    · left
      rw [ht,ServerReader.feed_dead hdead]
      exact ⟨_,hdead⟩
    · cases hrest : (stream frames).drop m with
      | nil =>
        right
        have hshort : (stream frames).length ≤ m := List.drop_eq_nil_iff.mp hrest
        rw [ht,hrest]
        refine recovers_short (hshort.trans (Nat.le_add_right m IMAGE_LIMIT)) ?_
        simp only [ServerReader.feed,List.foldl_nil,ServerReader.parseHeader,if_neg htime,
          if_neg hlimit]
        split_ifs <;> rfl
      | cons b rest =>
        left
        have hdead : (ServerReader.receive (ServerReader.parseHeader header s) b).place =
            .dead .arrayIndexOutOfBounds := by
          simp [ServerReader.receive,hplace,ServerReader.storeByte,hempty]
        rw [ht,hrest,ServerReader.feed_cons,ServerReader.feed_dead hdead]
        exact ⟨_,hdead⟩

theorem recovers_header {frames : List CapturedFrame} (h : ∀ f ∈ frames, Quiet (body f))
    {received : List UInt8} (hlen : received.length < ServerReader.HEADER_SIZE)
    (s : ServerReader.State) {t : ServerReader.State}
    (ht : t = ServerReader.feed (stream frames) { s with place := .receiveHeader received }) :
    (∃ exception, t.place = .dead exception) ∨
      Recovers (ServerReader.HEADER_SIZE + IMAGE_LIMIT) frames s.reads t := by
  obtain ⟨m,hm⟩ : ∃ m, received.length + m = ServerReader.HEADER_SIZE :=
    ⟨ServerReader.HEADER_SIZE - received.length,by omega⟩
  rcases Nat.lt_or_ge (stream frames).length m with hlt | hge
  · right
    rw [ht,Disconnect.feed_shortHeader received (stream frames) s (by omega)]
    exact recovers_short (by omega) rfl
  · have htake : ((stream frames).take m).length = m := List.length_take_of_le hge
    have hne : (stream frames).take m ≠ [] := by
      intro hnil
      rw [hnil,List.length_nil] at htake
      omega
    rw [← List.take_append_drop m (stream frames),ServerReader.feed_append,
      ServerReader.feed_header received _ s hne (by rw [htake,hm])] at ht
    exact (recovers_parsed h m _ s ht).imp_right (fun hrecovers => hrecovers.mono (by omega))

def Sound : ServerReader.Place → Prop
  | .receiveHeader header => header.length < ServerReader.HEADER_SIZE
  | .receiveImage header image => header.imageSize.toNatClampNeg ≤ IMAGE_LIMIT ∧
      (image.length < header.imageSize.toNatClampNeg ∨ header.imageSize.toNatClampNeg = 0)
  | _ => True

theorem sound_parseHeader (header : ServerReader.Header) (s : ServerReader.State) :
    Sound (ServerReader.parseHeader header s).place := by
  simp only [ServerReader.parseHeader]
  split_ifs with htime hlimit hsign
  · trivial
  · trivial
  · trivial
  · have hbig : (100000000 : Int32).toInt = 100000000 := by decide
    rw [gt_iff_lt,Int32.lt_iff_toInt_lt,hbig] at hlimit
    refine ⟨?_,(Nat.eq_zero_or_pos _).symm⟩
    rw [Int32.toNatClampNeg,IMAGE_LIMIT]
    omega

theorem sound_receive {s : ServerReader.State} (h : Sound s.place) (b : UInt8) :
    Sound (ServerReader.receive s b).place := by
  unfold ServerReader.receive
  cases hplace : s.place with
  | awaitStartFlag k =>
    simp only
    split_ifs
    · exact Nat.zero_lt_succ 12
    · trivial
  | receiveHeader header =>
    rw [hplace] at h
    simp only
    split_ifs with hfull
    · exact sound_parseHeader _ s
    · have hle : (header ++ [b]).length ≤ ServerReader.HEADER_SIZE := by
        rw [List.length_append]
        exact h
      exact Nat.lt_of_le_of_ne hle hfull
  | receiveImage header image =>
    rw [hplace] at h
    simp only [ServerReader.storeByte]
    split_ifs with hroom hfull
    · trivial
    · have hle : (image ++ [b]).length ≤ header.imageSize.toNatClampNeg := by
        rw [List.length_append]
        exact hroom
      exact ⟨h.1,.inl (Nat.lt_of_le_of_ne hle hfull)⟩
    · trivial
  | dead exception =>
    simp only
    rw [hplace]
    trivial

theorem sound_feed (garbage : List UInt8) :
    Sound (ServerReader.feed garbage ServerReader.start).place := by
  induction garbage using List.reverseRecOn with
  | nil => trivial
  | append_singleton garbage b ih =>
    rw [ServerReader.feed_append]
    exact sound_receive ih b

theorem self_synchronising (garbage : List UInt8) (frames : List CapturedFrame)
    (hquiet : ∀ f ∈ frames, Quiet (body f)) :
    (∃ exception,
      (ServerReader.feed (garbage ++ stream frames) ServerReader.start).place = .dead exception) ∨
    ∃ lost kept torn, Recovered (ServerReader.HEADER_SIZE + IMAGE_LIMIT) frames
      (ServerReader.feed garbage ServerReader.start).reads lost kept torn
      (ServerReader.feed (garbage ++ stream frames) ServerReader.start) := by
  have hsound := sound_feed garbage
  rw [ServerReader.feed_append]
  generalize ServerReader.feed garbage ServerReader.start = s at hsound ⊢
  cases hplace : s.place with
  | awaitStartFlag k =>
    have hself : s = { s with place := .awaitStartFlag k } := by rw [← hplace]
    right
    rw [hself]
    exact (recovers_scanning hquiet k s).mono (Nat.zero_le _)
  | receiveHeader received =>
    have hself : s = { s with place := .receiveHeader received } := by rw [← hplace]
    rw [hplace] at hsound
    rw [hself]
    exact recovers_header hquiet hsound s rfl
  | receiveImage header image =>
    rw [hplace] at hsound
    obtain ⟨hlimit,hroom | hempty⟩ := hsound
    · have hself : s = { s with place := .receiveImage header image } := by rw [← hplace]
      obtain ⟨n,hn⟩ := Nat.exists_eq_add_of_lt hroom
      right
      rw [hself]
      have hsize : image.length + (n + 1) = header.imageSize.toNatClampNeg := hn.symm
      have hbound : 0 + (n + 1) ≤ ServerReader.HEADER_SIZE + IMAGE_LIMIT := by omega
      exact (recovers_image hquiet 0 (Nat.succ_ne_zero n) header image s hsize).mono hbound
    · cases hstream : stream frames with
      | nil =>
        right
        refine recovers_short ?_ rfl
        rw [hstream]
        exact Nat.zero_le _
      | cons b rest =>
        left
        have hdead : (ServerReader.receive s b).place = .dead .arrayIndexOutOfBounds := by
          simp [ServerReader.receive,hplace,ServerReader.storeByte,hempty]
        rw [ServerReader.feed_cons,ServerReader.feed_dead hdead]
        exact ⟨_,hdead⟩
  | dead exception =>
    left
    rw [ServerReader.feed_dead hplace]
    exact ⟨exception,hplace⟩

def smallFrame (time : Fin 8) : CapturedFrame where
  writer := .start
  timeUnix := UInt64.ofNat time
  data := [7]
  time_fits := by
    have hsmall : ∀ time : Fin 8, (UInt64.ofNat time).toNat < 2 ^ 63 := by decide
    exact hsmall time
  data_nonempty := by decide
  data_fits := by decide

-- three bytes announced, one written
def shortWrite : List UInt8 := START_FLAG ++ [0,0,0,0,0,0,0,4,0,0,0,3,0] ++ [9]

theorem self_synchronising_shortWrite :
    (ServerReader.feed (shortWrite ++ stream [smallFrame 5,smallFrame 6,smallFrame 7])
        ServerReader.start).reads.map decode =
      [some (4,0,[9,'S'.toUInt8,'T'.toUInt8]),some (sent (smallFrame 6)),
        some (sent (smallFrame 7))] ∧
    ∃ lost kept torn, Recovered (ServerReader.HEADER_SIZE + IMAGE_LIMIT)
      [smallFrame 5,smallFrame 6,smallFrame 7]
      (ServerReader.feed shortWrite ServerReader.start).reads lost kept torn
      (ServerReader.feed (shortWrite ++ stream [smallFrame 5,smallFrame 6,smallFrame 7])
        ServerReader.start) := by
  have hquiet : ∀ f ∈ [smallFrame 5,smallFrame 6,smallFrame 7], Quiet (body f) := by
    have hS : ∀ f ∈ [smallFrame 5,smallFrame 6,smallFrame 7], 'S'.toUInt8 ∉ body f := by decide
    exact fun f hf => quiet_of_notMem (hS f hf)
  have hplace : (ServerReader.feed (shortWrite ++
      stream [smallFrame 5,smallFrame 6,smallFrame 7]) ServerReader.start).place =
        .awaitStartFlag 0 := by decide +kernel
  refine ⟨by decide +kernel,(self_synchronising shortWrite _ hquiet).resolve_left ?_⟩
  rintro ⟨exception,hdead⟩
  cases hplace.symm.trans hdead

structure DiscardedFrame where
  writer : SocketWriter
  timeUnix : UInt64
  data : List UInt8
  discarded : timeUnix.toInt64 < 0 ∨ (UInt32.ofNat data.length).toInt32 > 100000000
  quiet : Quiet data

namespace DiscardedFrame

def bytes (frame : DiscardedFrame) : List UInt8 :=
  (frame.writer.captureAndOutputSocket frame.timeUnix frame.data).flatten

def header (frame : DiscardedFrame) : ServerReader.Header where
  timestamp := frame.timeUnix.toInt64
  imageSize := (UInt32.ofNat frame.data.length).toInt32
  newMode := frame.writer.headerMode

def headerBytes (frame : DiscardedFrame) : List UInt8 :=
  WireFormat.layout frame.timeUnix.toBitVec (UInt32.ofNat frame.data.length).toBitVec
    frame.writer.headerMode

theorem bytes_eq (frame : DiscardedFrame) :
    frame.bytes = START_FLAG ++ (frame.headerBytes ++ frame.data) := by
  rw [bytes,SocketWriter.captureAndOutputSocket_bytes,SocketWriter.outputHeader_bytes,
    List.append_assoc]
  rfl

theorem headerOf_headerBytes (frame : DiscardedFrame) :
    ServerReader.headerOf frame.headerBytes = frame.header := by
  have htime : ServerReader.timestampOf frame.headerBytes = frame.timeUnix.toInt64 :=
    Int64.toBitVec_inj.mp (WireFormat.timestampOf_layout _ _ _)
  have hsize : ServerReader.imageSizeOf frame.headerBytes =
      (UInt32.ofNat frame.data.length).toInt32 :=
    Int32.toBitVec_inj.mp (WireFormat.imageSizeOf_layout _ _ _)
  rw [header,← htime,← hsize]
  rfl

theorem feed_bytes (frame : DiscardedFrame) (s : ServerReader.State)
    (hs : s.place = .awaitStartFlag 0) :
    ServerReader.feed frame.bytes s = ServerReader.finish frame.header none
      (ServerReader.handleMode frame.header.newMode s) := by
  have hlen : frame.headerBytes.length = ServerReader.HEADER_SIZE := rfl
  have hdiscarded : frame.header.timestamp < 0 ∨ frame.header.imageSize > 100000000 :=
    frame.discarded
  rw [bytes_eq,ServerReader.feed_flag s hs,ServerReader.feed_full_header s hlen,
    headerOf_headerBytes,ServerReader.parseHeader_discarded s hdiscarded]
  exact feed_quiet frame.quiet { ServerReader.handleMode frame.header.newMode s with
    reads := s.reads ++ [⟨frame.header,none⟩] }

end DiscardedFrame

inductive OutputFrame where
  | accepted (frame : CapturedFrame)
  | discarded (frame : DiscardedFrame)

namespace OutputFrame

def bytes : OutputFrame → List UInt8
  | .accepted frame => frame.bytes
  | .discarded frame => frame.bytes

def header : OutputFrame → ServerReader.Header
  | .accepted frame => frame.header
  | .discarded frame => frame.header

def received : OutputFrame → Option (ℤ × UInt8 × List UInt8)
  | .accepted frame => some (sent frame)
  | .discarded _ => none

theorem feed_bytes (frame : OutputFrame) (s : ServerReader.State)
    (hs : s.place = .awaitStartFlag 0) :
    ∃ image, decode ⟨frame.header,image⟩ = frame.received ∧
      ServerReader.feed frame.bytes s = ServerReader.finish frame.header image
        (ServerReader.handleMode frame.header.newMode s) := by
  cases frame with
  | accepted frame =>
    refine ⟨some frame.data,?_,frame.feed_bytes s hs⟩
    rw [received,sent,← frame.timestamp_toInt]
    rfl
  | discarded frame => exact ⟨none,rfl,frame.feed_bytes s hs⟩

end OutputFrame

def output (frames : List OutputFrame) : List UInt8 := frames.flatMap OutputFrame.bytes

theorem feed_output (frames : List OutputFrame) (s : ServerReader.State)
    (hs : s.place = .awaitStartFlag 0) :
    (ServerReader.feed (output frames) s).place = .awaitStartFlag 0 ∧
      (ServerReader.feed (output frames) s).reads.map decode =
        s.reads.map decode ++ frames.map OutputFrame.received ∧
      (ServerReader.feed (output frames) s).headers.map Prod.fst =
        s.headers.map Prod.fst ++ frames.map (fun frame => frame.header.newMode) := by
  induction frames generalizing s with
  | nil => exact ⟨hs,(List.append_nil _).symm,(List.append_nil _).symm⟩
  | cons frame frames ih =>
    obtain ⟨image,hdecode,hfeed⟩ := frame.feed_bytes s hs
    obtain ⟨hplace,hreads,hheaders⟩ := ih (ServerReader.finish frame.header image
      (ServerReader.handleMode frame.header.newMode s)) rfl
    rw [output,List.flatMap_cons,← output,ServerReader.feed_append,hfeed]
    refine ⟨hplace,hreads.trans ?_,hheaders.trans ?_⟩
    · rw [ServerReader.finish,List.map_append,List.map_singleton,hdecode,List.append_assoc]
      rfl
    · rw [ServerReader.finish,ServerReader.handleMode,List.map_append,List.append_assoc]
      rfl

theorem discarded_frames_cost_nothing (frames : List OutputFrame) (events : List WireFormat.Event)
    (s : WireFormat.State) (hrun : WireFormat.system.run events = some s)
    (harrived : WireFormat.arrived events = output frames) :
    ∃ t, WireFormat.system.after s (List.replicate s.pending.length .readByte) = some t ∧
      t.pending = [] ∧ t.reader.place = .awaitStartFlag 0 ∧
      t.reader.reads.map decode = frames.map OutputFrame.received ∧
      t.reader.headers.map Prod.fst = frames.map (fun frame => frame.header.newMode) := by
  obtain ⟨consumed,hbytes,hreader⟩ := WireFormat.consumed_run hrun
  obtain ⟨hplace,hreads,hheaders⟩ := feed_output frames ServerReader.start rfl
  have hall : ServerReader.feed s.pending s.reader =
      ServerReader.feed (output frames) ServerReader.start := by
    rw [hreader,← ServerReader.feed_append,hbytes,harrived]
  rw [← hall] at hplace hreads hheaders
  exact ⟨_,WireFormat.read_pending s.pending s.reader hplace,rfl,hplace,hreads,hheaders⟩

def clockFailed : DiscardedFrame where
  writer := ⟨.movie,2⟩
  timeUnix := 0x8000000000000000
  data := [1,2,3]
  discarded := .inl (by decide)
  quiet := quiet_of_notMem (by decide)

theorem discarded_frames_cost_nothing_clockFailed :
    ∃ t, WireFormat.system.after
        ⟨ServerReader.start,clockFailed.bytes ++ (smallFrame 5).bytes⟩
        (List.replicate (clockFailed.bytes ++ (smallFrame 5).bytes).length .readByte) = some t ∧
      t.pending = [] ∧ t.reader.place = .awaitStartFlag 0 ∧
      t.reader.reads.map decode = [none,some (5,0,[7])] ∧
      t.reader.headers.map Prod.fst = [3,0] := by
  have h := discarded_frames_cost_nothing [.discarded clockFailed,.accepted (smallFrame 5)]
    [.arrive clockFailed.bytes,.arrive (smallFrame 5).bytes]
    ⟨ServerReader.start,clockFailed.bytes ++ (smallFrame 5).bytes⟩ rfl rfl
  exact h

end VideoSurveillance.Recovery
