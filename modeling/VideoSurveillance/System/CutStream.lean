import VideoSurveillance.Client.Disconnect
import VideoSurveillance.System.WireFormat

namespace VideoSurveillance.CutStream
open WireFormat (CapturedFrame stream)

def FLAG_AND_HEADER : ℕ := ServerReader.START_FLAG.length + ServerReader.HEADER_SIZE

def receivedModes : List CapturedFrame → ℕ → List UInt8
  | [], _ => []
  | frame :: frames, n =>
    if n < FLAG_AND_HEADER then []
    else frame.writer.headerMode :: receivedModes frames (n - frame.bytes.length)

def flagAfter (motion : Bool) (frames : List CapturedFrame) : Bool :=
  frames.foldl (fun motion frame => ServerReader.nextMotion motion frame.writer.headerMode) motion

def CallJustified (modes : List UInt8) (i : ℕ) (newMode : UInt8) : Prop :=
  modes[i]? = some newMode ∧ newMode &&& 2 = 2

def FrameJustified (received : List UInt8) (header : ServerReader.Header) (image : List UInt8) :
    Prop :=
  ∃ bytes, bytes.length = ServerReader.HEADER_SIZE ∧ ServerReader.headerOf bytes = header ∧
    ServerReader.START_FLAG ++ (bytes ++ image) <:+: received

structure Justified (modes received : List UInt8) (r : ServerReader.State) : Prop where
  calls : ∀ i newMode, r.headers[i]? = some (newMode,true) → CallJustified modes i newMode
  frames : ∀ read ∈ r.reads, ∀ image, read.image = some image →
    FrameJustified received read.header image

def MotionSetAtCut (motion : Bool) (frames : List CapturedFrame) (n : ℕ) : Prop :=
  ∀ before frame after, frames = before ++ frame :: after →
    (stream before).length + ServerReader.START_FLAG.length ≤ n →
    n < (stream before).length + FLAG_AND_HEADER → flagAfter motion before = true

theorem cut_flag {frame : CapturedFrame} {n : ℕ} (s : ServerReader.State)
    (hs : s.place = .awaitStartFlag 0) (hn : n < ServerReader.START_FLAG.length) :
    ServerReader.feed (frame.bytes.take n) s = { s with place := .awaitStartFlag n } := by
  have hstart : s = { s with place := .awaitStartFlag 0 } := by rw [← hs]
  rw [hstart,frame.bytes_eq,List.take_append_of_le_length hn.le]
  change n < 10 at hn
  interval_cases n <;> rfl

theorem cut_header {frame : CapturedFrame} {n : ℕ} (s : ServerReader.State)
    (hs : s.place = .awaitStartFlag 0) (hn : n < ServerReader.HEADER_SIZE) :
    ServerReader.feed (frame.bytes.take (ServerReader.START_FLAG.length + n)) s =
      { s with place := .receiveHeader (frame.headerBytes.take n) } := by
  have hlen : (frame.headerBytes.take n).length = n := List.length_take_of_le hn.le
  rw [frame.bytes_eq,List.take_length_add_append,ServerReader.feed_flag s hs,
    List.take_append_of_le_length hn.le,Disconnect.feed_shortHeader [] _ s (by simpa [hlen] using hn),
    List.nil_append]

theorem cut_image {frame : CapturedFrame} {n : ℕ} (s : ServerReader.State)
    (hs : s.place = .awaitStartFlag 0) (hn : n < frame.data.length) :
    ServerReader.feed (frame.bytes.take (FLAG_AND_HEADER + n)) s =
      { ServerReader.handleMode frame.writer.headerMode s with
        place := .receiveImage frame.header (frame.data.take n) } := by
  have hheader : frame.headerBytes.length = ServerReader.HEADER_SIZE := rfl
  have hlen : (frame.data.take n).length = n := List.length_take_of_le hn.le
  rw [FLAG_AND_HEADER,Nat.add_assoc,frame.bytes_eq,List.take_length_add_append,ServerReader.feed_flag s hs,
    ← hheader,List.take_length_add_append,ServerReader.feed_full_header s hheader,
    frame.headerOf_headerBytes,frame.parseHeader_header,
    Disconnect.feed_shortImage frame.header [] _ _ (by rw [hlen,frame.imageSize_count]; simpa using hn),
    List.nil_append]
  rfl

theorem bytes_length (frame : CapturedFrame) :
    frame.bytes.length = FLAG_AND_HEADER + frame.data.length := by
  have hheader : frame.headerBytes.length = ServerReader.HEADER_SIZE := rfl
  rw [frame.bytes_eq,List.length_append,List.length_append,hheader,FLAG_AND_HEADER,Nat.add_assoc]

def HandledJustified (modes : List UInt8) (handled : List (UInt8 × Bool)) : Prop :=
  ∀ i newMode, handled[i]? = some (newMode,true) → CallJustified modes i newMode

def ReadJustified (received : List UInt8) (reads : List ServerReader.Read) : Prop :=
  ∀ read ∈ reads, ∀ image, read.image = some image → FrameJustified received read.header image

theorem handledJustified_nil (modes : List UInt8) : HandledJustified modes [] := by
  intro i newMode h
  simp at h

theorem readJustified_nil (received : List UInt8) : ReadJustified received [] := by
  intro read h
  simp at h

theorem announces_bit {motion : Bool} {newMode : UInt8}
    (h : ServerReader.announces motion newMode = true) : newMode &&& 2 = 2 := by
  have hbit := (Bool.and_eq_true_iff.mp h).1
  exact (of_decide_eq_true hbit).symm

theorem handledJustified_cons {modes : List UInt8} {handled : List (UInt8 × Bool)}
    (h : HandledJustified modes handled) (motion : Bool) (mode : UInt8) :
    HandledJustified (mode :: modes) ((mode,ServerReader.announces motion mode) :: handled) := by
  intro i newMode hi
  cases i with
  | zero =>
    rw [List.getElem?_cons_zero,Option.some.injEq,Prod.mk.injEq] at hi
    obtain ⟨rfl,hannounces⟩ := hi
    exact ⟨rfl,announces_bit hannounces⟩
  | succ i =>
    rw [List.getElem?_cons_succ] at hi
    exact h i newMode hi

theorem frameJustified_mono {received received' : List UInt8} (hsub : received <:+: received')
    {header : ServerReader.Header} {image : List UInt8}
    (h : FrameJustified received header image) : FrameJustified received' header image := by
  obtain ⟨bytes,hlen,hheader,hwithin⟩ := h
  exact ⟨bytes,hlen,hheader,hwithin.trans hsub⟩

theorem frameJustified_bytes (frame : CapturedFrame) (rest : List UInt8) :
    FrameJustified (frame.bytes ++ rest) frame.header frame.data := by
  refine ⟨frame.headerBytes,rfl,frame.headerOf_headerBytes,?_⟩
  rw [← frame.bytes_eq]
  exact (List.prefix_append frame.bytes rest).isInfix

structure Extends (modes received : List UInt8) (s r : ServerReader.State) : Prop where
  handled : ∃ handled, r.headers = s.headers ++ handled ∧ HandledJustified modes handled
  read : ∃ reads, r.reads = s.reads ++ reads ∧ ReadJustified received reads

theorem extends_silent {modes received : List UInt8} {s r : ServerReader.State}
    (hheaders : r.headers = s.headers) (hreads : r.reads = s.reads) :
    Extends modes received s r :=
  ⟨⟨[],by simp [hheaders],handledJustified_nil modes⟩,⟨[],by simp [hreads],readJustified_nil received⟩⟩

theorem extends_header {modes received : List UInt8} {s r : ServerReader.State} {mode : UInt8}
    (hheaders : r.headers = s.headers ++ [(mode,ServerReader.announces s.motion mode)])
    (hreads : r.reads = s.reads) : Extends (mode :: modes) received s r :=
  ⟨⟨_,hheaders,handledJustified_cons (handledJustified_nil modes) s.motion mode⟩,
    ⟨[],by simp [hreads],readJustified_nil received⟩⟩

theorem extends_frame {modes received : List UInt8} {frame : CapturedFrame}
    {s r : ServerReader.State}
    (h : Extends modes received (ServerReader.finish frame.header (some frame.data)
      (ServerReader.handleMode frame.writer.headerMode s)) r) :
    Extends (frame.writer.headerMode :: modes) (frame.bytes ++ received) s r := by
  obtain ⟨⟨handled,hheaders,hhandled⟩,⟨reads,hreads,hread⟩⟩ := h
  refine ⟨⟨_,hheaders.trans (List.append_assoc _ _ _),handledJustified_cons hhandled s.motion _⟩,
    ⟨_,hreads.trans (List.append_assoc _ _ _),?_⟩⟩
  intro read hmem image himage
  rcases List.mem_append.mp hmem with hmem | hmem
  · obtain rfl := List.mem_singleton.mp hmem
    obtain rfl := Option.some.inj himage
    exact frameJustified_bytes frame received
  · exact frameJustified_mono (List.suffix_append _ _).isInfix (hread read hmem image himage)

theorem feed_justified (frames : List CapturedFrame) (n : ℕ) (s : ServerReader.State)
    (hs : s.place = .awaitStartFlag 0) :
    Extends (receivedModes frames n) ((stream frames).take n) s
      (ServerReader.feed ((stream frames).take n) s) := by
  induction frames generalizing n s with
  | nil =>
    rw [stream,List.flatMap_nil,List.take_nil]
    exact extends_silent rfl rfl
  | cons frame frames ih =>
    rw [stream,List.flatMap_cons,← stream]
    rcases lt_or_ge n frame.bytes.length with hcut | hfull
    · rw [List.take_append_of_le_length hcut.le]
      rcases lt_or_ge n FLAG_AND_HEADER with hflag | hheader
      · rcases lt_or_ge n ServerReader.START_FLAG.length with hn | hn
        · rw [cut_flag s hs hn]
          exact extends_silent rfl rfl
        · obtain ⟨m,rfl⟩ := Nat.exists_eq_add_of_le hn
          rw [cut_header s hs (by rw [FLAG_AND_HEADER] at hflag; omega)]
          exact extends_silent rfl rfl
      · obtain ⟨m,rfl⟩ := Nat.exists_eq_add_of_le hheader
        rw [receivedModes,if_neg (by omega),
          cut_image s hs (by rw [bytes_length] at hcut; omega)]
        exact extends_header rfl rfl
    · obtain ⟨m,rfl⟩ := Nat.exists_eq_add_of_le hfull
      have hheader : ¬ frame.bytes.length + m < FLAG_AND_HEADER := by rw [bytes_length]; omega
      rw [receivedModes,if_neg hheader,Nat.add_sub_cancel_left,List.take_length_add_append,
        ServerReader.feed_append,frame.feed_bytes s hs]
      exact extends_frame (ih m _ rfl)

def Quiet (r : ServerReader.State) : Prop :=
  r.motion = true ∨ ∀ header, r.place ≠ .receiveHeader header

theorem motionSetAtCut_tail {motion : Bool} {frame : CapturedFrame} {frames : List CapturedFrame}
    {m : ℕ} (h : MotionSetAtCut motion (frame :: frames) (frame.bytes.length + m)) :
    MotionSetAtCut (ServerReader.nextMotion motion frame.writer.headerMode) frames m := by
  intro before cut after hframes hlow hhigh
  have hstream : (stream (frame :: before)).length = frame.bytes.length + (stream before).length := by
    simp [stream]
  exact h (frame :: before) cut after (by rw [hframes]; rfl) (by omega) (by omega)

theorem quiet_at_cut (frames : List CapturedFrame) (n : ℕ) (s : ServerReader.State)
    (hs : s.place = .awaitStartFlag 0) (h : MotionSetAtCut s.motion frames n) :
    Quiet (ServerReader.feed ((stream frames).take n) s) := by
  induction frames generalizing n s with
  | nil =>
    rw [stream,List.flatMap_nil,List.take_nil]
    exact .inr (fun header hplace => by cases hs.symm.trans hplace)
  | cons frame frames ih =>
    rw [stream,List.flatMap_cons,← stream]
    rcases lt_or_ge n frame.bytes.length with hcut | hfull
    · rw [List.take_append_of_le_length hcut.le]
      rcases lt_or_ge n FLAG_AND_HEADER with hflag | hheader
      · rcases lt_or_ge n ServerReader.START_FLAG.length with hn | hn
        · rw [cut_flag s hs hn]
          exact .inr (by simp)
        · have hmotion : s.motion = true := h [] frame frames rfl (by simpa [stream] using hn)
            (by simpa [stream] using hflag)
          obtain ⟨m,rfl⟩ := Nat.exists_eq_add_of_le hn
          rw [cut_header s hs (by rw [FLAG_AND_HEADER] at hflag; omega)]
          exact .inl hmotion
      · obtain ⟨m,rfl⟩ := Nat.exists_eq_add_of_le hheader
        rw [cut_image s hs (by rw [bytes_length] at hcut; omega)]
        exact .inr (by simp)
    · obtain ⟨m,rfl⟩ := Nat.exists_eq_add_of_le hfull
      rw [List.take_length_add_append,ServerReader.feed_append,frame.feed_bytes s hs]
      exact ih m _ rfl (motionSetAtCut_tail h)

structure Silent (r t : ServerReader.State) : Prop where
  handled : ∃ handled, t.headers = r.headers ++ handled ∧ ∀ entry ∈ handled, entry.2 = false
  read : ∃ reads, t.reads = r.reads ++ reads ∧ ∀ read ∈ reads, read.image = none

theorem Silent.refl (r : ServerReader.State) : Silent r r :=
  ⟨⟨[],by simp,by simp⟩,⟨[],by simp,by simp⟩⟩

theorem Silent.trans {r t u : ServerReader.State} (h : Silent r t) (k : Silent t u) : Silent r u := by
  obtain ⟨⟨handled,hheaders,hfalse⟩,⟨reads,hreads,hnone⟩⟩ := h
  obtain ⟨⟨handled',hheaders',hfalse'⟩,⟨reads',hreads',hnone'⟩⟩ := k
  refine ⟨⟨handled ++ handled',by rw [hheaders',hheaders,List.append_assoc],?_⟩,
    ⟨reads ++ reads',by rw [hreads',hreads,List.append_assoc],?_⟩⟩
  · intro entry hmem
    exact (List.mem_append.mp hmem).elim (hfalse entry) (hfalse' entry)
  · intro read hmem
    exact (List.mem_append.mp hmem).elim (hnone read) (hnone' read)

theorem extends_of_silent {modes received : List UInt8} {s r t : ServerReader.State}
    (h : Extends modes received s r) (k : Silent r t) : Extends modes received s t := by
  obtain ⟨⟨handled,hheaders,hhandled⟩,⟨reads,hreads,hread⟩⟩ := h
  obtain ⟨⟨late,hlate,hfalse⟩,⟨discarded,hdiscarded,hnone⟩⟩ := k
  refine ⟨⟨handled ++ late,by rw [hlate,hheaders,List.append_assoc],?_⟩,
    ⟨reads ++ discarded,by rw [hdiscarded,hreads,List.append_assoc],?_⟩⟩
  · intro i newMode hi
    rcases lt_or_ge i handled.length with hlt | hge
    · rw [List.getElem?_append_left hlt] at hi
      exact hhandled i newMode hi
    · rw [List.getElem?_append_right hge] at hi
      cases hfalse _ (List.mem_of_getElem? hi)
  · intro read hmem image himage
    rcases List.mem_append.mp hmem with hmem | hmem
    · exact hread read hmem image himage
    · cases himage.symm.trans (hnone read hmem)

theorem silent_parseHeader {header : ServerReader.Header} {s : ServerReader.State}
    (h : ServerReader.announces s.motion header.newMode = false) :
    Silent s (ServerReader.parseHeader header s) := by
  refine ⟨⟨_,ServerReader.parseHeader_headers header s,by simp [h]⟩,?_⟩
  simp only [ServerReader.parseHeader]
  split_ifs
  · exact ⟨[⟨header,none⟩],rfl,by simp⟩
  · exact ⟨[⟨header,none⟩],rfl,by simp⟩
  · exact ⟨[],by simp [ServerReader.handleMode],by simp⟩
  · exact ⟨[],by simp [ServerReader.handleMode],by simp⟩

theorem headerOf_endOfStream {header : List UInt8}
    (h : (header ++ [Disconnect.END_OF_STREAM]).length = ServerReader.HEADER_SIZE) :
    (ServerReader.headerOf (header ++ [Disconnect.END_OF_STREAM])).newMode =
      Disconnect.END_OF_STREAM := by
  have hlen : header.length = ServerReader.MODE_OF_OP_INDEX :=
    Nat.succ.inj (List.length_append.symm.trans h)
  rw [ServerReader.headerOf,← hlen,List.getD_append_right _ _ _ _ le_rfl,Nat.sub_self]
  rfl

theorem quiet_afterEnd {r : ServerReader.State} (h : Quiet r) :
    Quiet (Disconnect.afterEnd r) ∧ Silent r (Disconnect.afterEnd r) := by
  cases hp : r.place with
  | awaitStartFlag i =>
    obtain ⟨j,hj⟩ := Disconnect.afterEnd_awaitStartFlag hp
    rw [hj]
    exact ⟨.inr (by simp),⟨⟨[],by simp,by simp⟩,⟨[],by simp,by simp⟩⟩⟩
  | receiveImage header image =>
    rw [Disconnect.afterEnd_image hp]
    exact ⟨h,.refl r⟩
  | dead exception =>
    rw [Disconnect.afterEnd_dead hp]
    exact ⟨h,.refl r⟩
  | receiveHeader header =>
    have hmotion : r.motion = true := h.resolve_right (fun hall => hall header hp)
    simp only [Disconnect.afterEnd,hp,ServerReader.receive]
    split_ifs with hfull
    · have hmode := headerOf_endOfStream hfull
      have hannounces : ServerReader.announces r.motion
          (ServerReader.headerOf (header ++ [Disconnect.END_OF_STREAM])).newMode = false := by
        rw [hmode,hmotion]
        rfl
      refine ⟨.inl ?_,silent_parseHeader hannounces⟩
      rw [ServerReader.parseHeader_motion,hmode,hmotion]
      rfl
    · exact ⟨.inl hmotion,⟨⟨[],by simp,by simp⟩,⟨[],by simp,by simp⟩⟩⟩

theorem quiet_iterate {r : ServerReader.State} (h : Quiet r) (m : ℕ) :
    Quiet (Disconnect.afterEnd^[m] r) ∧ Silent r (Disconnect.afterEnd^[m] r) := by
  induction m with
  | zero => exact ⟨h,.refl r⟩
  | succ m ih =>
    obtain ⟨hquiet,hsilent⟩ := ih
    rw [Function.iterate_succ_apply']
    obtain ⟨hnext,hlater⟩ := quiet_afterEnd hquiet
    exact ⟨hnext,hsilent.trans hlater⟩

theorem receivedModes_append (before rest : List CapturedFrame) (m : ℕ) :
    receivedModes (before ++ rest) ((stream before).length + m) =
      before.map (fun frame => frame.writer.headerMode) ++ receivedModes rest m := by
  induction before with
  | nil => simp [stream]
  | cons frame before ih =>
    have hlen : (stream (frame :: before)).length = frame.bytes.length + (stream before).length := by
      simp [stream]
    have hheader : ¬ (stream (frame :: before)).length + m < FLAG_AND_HEADER := by
      rw [hlen,bytes_length]
      omega
    have hrest : (stream (frame :: before)).length + m - frame.bytes.length =
        (stream before).length + m := by omega
    rw [List.cons_append,receivedModes,if_neg hheader,hrest,ih]
    rfl

theorem receivedModes_take (frames : List CapturedFrame) (n : ℕ) :
    receivedModes frames ((stream frames).take n).length = receivedModes frames n := by
  rw [List.length_take]
  rcases le_total n (stream frames).length with hle | hle
  · rw [Nat.min_eq_left hle]
  · obtain ⟨m,rfl⟩ := Nat.exists_eq_add_of_le hle
    rw [Nat.min_eq_right hle]
    have hfull := receivedModes_append frames [] m
    have hexact := receivedModes_append frames [] 0
    rw [List.append_nil] at hfull hexact
    exact hexact.trans hfull.symm

theorem receivedModes_mono (frames : List CapturedFrame) {k n : ℕ} (h : k ≤ n) :
    receivedModes frames k <+: receivedModes frames n := by
  induction frames generalizing k n with
  | nil => exact List.prefix_refl _
  | cons frame frames ih =>
    rw [receivedModes,receivedModes]
    split_ifs with hk hn
    · exact List.prefix_refl _
    · exact List.nil_prefix
    · omega
    · exact (List.prefix_cons_inj _).mpr (ih (Nat.sub_le_sub_right h _))

theorem callJustified_mono {modes modes' : List UInt8} (h : modes <+: modes') {i : ℕ}
    {newMode : UInt8} (hcall : CallJustified modes i newMode) : CallJustified modes' i newMode := by
  obtain ⟨hmode,hbit⟩ := hcall
  obtain ⟨rest,rfl⟩ := h
  obtain ⟨hlt,-⟩ := List.getElem?_eq_some_iff.mp hmode
  exact ⟨(List.getElem?_append_left hlt).trans hmode,hbit⟩

theorem justified_of_extends {modes modes' received received' : List UInt8} {motion : Bool}
    {r : ServerReader.State} (h : Extends modes received (Disconnect.start motion) r)
    (hmodes : modes <+: modes') (hreceived : received <+: received') :
    Justified modes' received' r := by
  obtain ⟨⟨handled,hheaders,hhandled⟩,⟨reads,hreads,hread⟩⟩ := h
  rw [show (Disconnect.start motion).headers = [] from rfl,List.nil_append] at hheaders
  rw [show (Disconnect.start motion).reads = [] from rfl,List.nil_append] at hreads
  refine ⟨fun i newMode hi => ?_,fun read hmem image himage => ?_⟩
  · rw [hheaders] at hi
    exact callJustified_mono hmodes (hhandled i newMode hi)
  · rw [hreads] at hmem
    exact frameJustified_mono hreceived.isInfix (hread read hmem image himage)

structure CutAt (frames : List CapturedFrame) (n : ℕ) (events : List Disconnect.Event)
    (s : Disconnect.State) : Prop where
  arrived : Disconnect.arrived events <+: (stream frames).take n
  closed : s.closed = true → Disconnect.arrived events = (stream frames).take n

theorem justified_of_motionSet {motion : Bool} {frames : List CapturedFrame} {n : ℕ}
    (h : MotionSetAtCut motion frames n) {events : List Disconnect.Event} {s : Disconnect.State}
    (hrun : (Disconnect.system motion).run events = some s) (hcut : CutAt frames n events s) :
    Justified (receivedModes frames (Disconnect.arrived events).length)
      (Disconnect.arrived events) s.reader := by
  obtain ⟨consumed,m,hbytes,hreader,hm⟩ := Disconnect.consumed_run hrun
  have hconsumed : consumed <+: (stream frames).take n :=
    (List.prefix_append consumed s.pending).trans (hbytes ▸ hcut.arrived)
  have harrived : consumed <+: Disconnect.arrived events := hbytes ▸ List.prefix_append _ _
  rcases hm with rfl | ⟨hpending,hclosed⟩
  · have htake : consumed = (stream frames).take consumed.length :=
      List.prefix_iff_eq_take.mp
        ((harrived.trans hcut.arrived).trans (List.take_prefix n (stream frames)))
    have hfeed := feed_justified frames consumed.length (Disconnect.start motion) rfl
    rw [← htake] at hfeed
    rw [hreader]
    exact justified_of_extends hfeed (receivedModes_mono frames harrived.length_le) harrived
  · have hall : consumed = (stream frames).take n := by
      rw [← hcut.closed hclosed,← hbytes,hpending,List.append_nil]
    obtain ⟨-,hsilent⟩ := quiet_iterate (quiet_at_cut frames n (Disconnect.start motion) rfl h) m
    have hextends := extends_of_silent
      (feed_justified frames n (Disconnect.start motion) rfl) hsilent
    rw [hreader,hcut.closed hclosed,hall,receivedModes_take]
    exact justified_of_extends hextends (List.prefix_refl _) (List.prefix_refl _)

structure Replayed (frames : List CapturedFrame) (s r : ServerReader.State) : Prop where
  place : r.place = .awaitStartFlag 0
  motion : r.motion = flagAfter s.motion frames
  headers : r.headers.length = s.headers.length + frames.length

theorem replayed_stream (frames : List CapturedFrame) (s : ServerReader.State)
    (hs : s.place = .awaitStartFlag 0) :
    Replayed frames s (ServerReader.feed (stream frames) s) := by
  induction frames generalizing s with
  | nil => exact ⟨hs,rfl,rfl⟩
  | cons frame frames ih =>
    obtain ⟨hplace,hmotion,hheaders⟩ := ih (ServerReader.finish frame.header (some frame.data)
      (ServerReader.handleMode frame.header.newMode s)) rfl
    rw [stream,List.flatMap_cons,← stream,ServerReader.feed_append,frame.feed_bytes s hs]
    refine ⟨hplace,hmotion,hheaders.trans ?_⟩
    simp only [ServerReader.finish,ServerReader.handleMode,List.length_append,List.length_cons,
      List.length_nil]
    omega

theorem parseHeader_padded (k : ℕ) (received : List UInt8) (s : ServerReader.State)
    (hlen : received.length + (k + 1) = ServerReader.HEADER_SIZE) (hmotion : s.motion = false) :
    (ServerReader.parseHeader (ServerReader.headerOf
      (received ++ List.replicate (k + 1) Disconnect.END_OF_STREAM)) s).headers =
        s.headers ++ [(Disconnect.END_OF_STREAM,true)] := by
  have hfull : (received ++ List.replicate k Disconnect.END_OF_STREAM ++
      [Disconnect.END_OF_STREAM]).length = ServerReader.HEADER_SIZE := by
    simpa [Nat.add_assoc] using hlen
  rw [ServerReader.parseHeader_headers,List.replicate_succ',← List.append_assoc,headerOf_endOfStream hfull,
    hmotion]
  rfl

def cutRun (received : List UInt8) (k : ℕ) : List Disconnect.Event :=
  [.arrive received,.hangUp] ++ List.replicate received.length .proceed ++
    List.replicate (k + 1) .proceed

theorem arrived_cutRun (received : List UInt8) (k : ℕ) :
    Disconnect.arrived (cutRun received k) = received := by
  simp [cutRun,Disconnect.arrived]

theorem cutRun_state (motion : Bool) (received : List UInt8) (k : ℕ)
    (h : ∀ exception, (Disconnect.afterEnd^[k]
      (ServerReader.feed received (Disconnect.start motion))).place ≠ .dead exception) :
    (Disconnect.system motion).run (cutRun received k) =
      some ⟨Disconnect.afterEnd^[k + 1] (ServerReader.feed received (Disconnect.start motion)),[],
        true⟩ := by
  have hread : ∀ exception,
      (ServerReader.feed received (Disconnect.start motion)).place ≠ .dead exception := by
    intro exception hdead
    refine h exception ?_
    rw [Function.iterate_fixed (Disconnect.afterEnd_dead hdead) k]
    exact hdead
  have hstart : (Disconnect.system motion).run [.arrive received,.hangUp] =
      some ⟨Disconnect.start motion,received,true⟩ := rfl
  rw [cutRun,Runs.System.run_append,Runs.System.run_append,hstart,Option.bind_some,
    Disconnect.read_pending hread,Option.bind_some]
  exact Disconnect.read_end h

theorem take_stream (before : List CapturedFrame) (frame : CapturedFrame)
    (after : List CapturedFrame) {m : ℕ} (hm : m ≤ frame.bytes.length) :
    (stream (before ++ frame :: after)).take ((stream before).length + m) =
      stream before ++ frame.bytes.take m := by
  have hsplit : stream (before ++ frame :: after) = stream before ++ (frame.bytes ++ stream after) := by
    simp only [stream,List.flatMap_append,List.flatMap_cons]
  rw [hsplit,List.take_length_add_append,List.take_append_of_le_length hm]

theorem receivedModes_cut (before : List CapturedFrame) (frame : CapturedFrame)
    (after : List CapturedFrame) {m : ℕ} (hm : m < FLAG_AND_HEADER) :
    (receivedModes (before ++ frame :: after) ((stream before).length + m)).length =
      before.length := by
  rw [receivedModes_append,receivedModes,if_pos hm,List.append_nil,List.length_map]

theorem feed_cut_header (motion : Bool) (before : List CapturedFrame) (frame : CapturedFrame)
    {m : ℕ} (hm : m < ServerReader.HEADER_SIZE) :
    ServerReader.feed (stream before ++ frame.bytes.take (ServerReader.START_FLAG.length + m))
      (Disconnect.start motion) =
        { ServerReader.feed (stream before) (Disconnect.start motion) with
          place := .receiveHeader (frame.headerBytes.take m) } := by
  rw [ServerReader.feed_append,cut_header _ (replayed_stream before _ rfl).place hm]

theorem cutRun_header (motion : Bool) (before : List CapturedFrame) (frame : CapturedFrame)
    {m k : ℕ} (hk : m + (k + 1) = ServerReader.HEADER_SIZE) :
    (Disconnect.system motion).run
      (cutRun (stream before ++ frame.bytes.take (ServerReader.START_FLAG.length + m)) k) =
      some ⟨ServerReader.parseHeader (ServerReader.headerOf
        (frame.headerBytes.take m ++ List.replicate (k + 1) Disconnect.END_OF_STREAM))
          (ServerReader.feed (stream before) (Disconnect.start motion)),[],true⟩ := by
  have hm : m < ServerReader.HEADER_SIZE := by omega
  have hlen : (frame.headerBytes.take m).length = m := List.length_take_of_le hm.le
  have hrun := cutRun_state motion
    (stream before ++ frame.bytes.take (ServerReader.START_FLAG.length + m)) k (by
      rw [feed_cut_header motion before frame hm,Disconnect.iterate_shortHeader k _ _ (by omega)]
      simp)
  rw [feed_cut_header motion before frame hm,Disconnect.iterate_header k _ _ (by omega)] at hrun
  exact hrun

theorem unjustified_cut (motion : Bool) (before : List CapturedFrame) (frame : CapturedFrame)
    (after : List CapturedFrame) {m : ℕ} (hm : m < ServerReader.HEADER_SIZE)
    (hmotion : flagAfter motion before = false) :
    ∃ events s, (Disconnect.system motion).run events = some s ∧
      CutAt (before ++ frame :: after)
        ((stream before).length + (ServerReader.START_FLAG.length + m)) events s ∧
      ¬ Justified (receivedModes (before ++ frame :: after) (Disconnect.arrived events).length)
        (Disconnect.arrived events) s.reader := by
  obtain ⟨k,hk⟩ : ∃ k, m + (k + 1) = ServerReader.HEADER_SIZE :=
    ⟨ServerReader.HEADER_SIZE - m - 1,by omega⟩
  have hcut : ServerReader.START_FLAG.length + m < FLAG_AND_HEADER := by
    rw [FLAG_AND_HEADER]
    omega
  have htake := take_stream before frame after
    (hcut.le.trans (by rw [bytes_length]; exact Nat.le_add_right _ _))
  obtain ⟨-,hflag,hheaders⟩ := replayed_stream before (Disconnect.start motion) rfl
  have hlen : (frame.headerBytes.take m).length = m := List.length_take_of_le hm.le
  refine ⟨_,_,cutRun_header motion before frame hk,?_,?_⟩
  · rw [← htake]
    exact ⟨by rw [arrived_cutRun],fun _ => arrived_cutRun _ _⟩
  · rintro ⟨hcalls,-⟩
    have hlogged := parseHeader_padded k (frame.headerBytes.take m)
      (ServerReader.feed (stream before) (Disconnect.start motion)) (by omega)
      (hflag.trans hmotion)
    have hzero : before.length = (ServerReader.feed (stream before)
        (Disconnect.start motion)).headers.length := by rw [hheaders]; exact (Nat.zero_add _).symm
    obtain ⟨hreceived,-⟩ := hcalls before.length Disconnect.END_OF_STREAM (by
      rw [hlogged,hzero]
      exact List.getElem?_concat_length ..)
    rw [arrived_cutRun,← htake,receivedModes_take] at hreceived
    obtain ⟨hlt,-⟩ := List.getElem?_eq_some_iff.mp hreceived
    rw [receivedModes_cut before frame after hcut] at hlt
    exact lt_irrefl _ hlt

theorem cut_justified_iff (motion : Bool) (frames : List CapturedFrame) (n : ℕ) :
    (∀ events s, (Disconnect.system motion).run events = some s → CutAt frames n events s →
      Justified (receivedModes frames (Disconnect.arrived events).length)
        (Disconnect.arrived events) s.reader) ↔
      MotionSetAtCut motion frames n := by
  constructor
  · intro h before frame after hframes hlow hhigh
    obtain ⟨m,rfl⟩ := Nat.exists_eq_add_of_le hlow
    by_contra hflag
    have hm : m < ServerReader.HEADER_SIZE := by
      rw [FLAG_AND_HEADER] at hhigh
      omega
    obtain ⟨events,s,hrun,hcut,hbad⟩ := unjustified_cut motion before frame after hm
      (Bool.eq_false_iff.mpr hflag)
    rw [← hframes,← Nat.add_assoc] at hcut
    rw [← hframes] at hbad
    exact hbad (h events s hrun hcut)
  · intro h events s hrun hcut
    exact justified_of_motionSet h hrun hcut

theorem end_of_stream_announces_motion :
    ¬ ∀ (motion : Bool) (frames : List CapturedFrame) (n : ℕ) (events : List Disconnect.Event)
      (s : Disconnect.State), (Disconnect.system motion).run events = some s →
      CutAt frames n events s →
      Justified (receivedModes frames (Disconnect.arrived events).length)
        (Disconnect.arrived events) s.reader := by
  intro h
  obtain ⟨events,s,hrun,hcut,hbad⟩ := unjustified_cut false [] WireFormat.flagInPayload []
    (m := 0) (by decide) rfl
  exact hbad (h false _ _ events s hrun hcut)

end VideoSurveillance.CutStream
