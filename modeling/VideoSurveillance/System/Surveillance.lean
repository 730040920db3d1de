import VideoSurveillance.Client.Display
import VideoSurveillance.System.WireFormat

namespace VideoSurveillance.Surveillance
open WireFormat (CapturedFrame)

structure Feed where
  pending : List UInt8
  reader : ServerReader.State
  receivedFrame : Option ServerFrame
  deriving DecidableEq

structure State where
  feeds : PerCamera Feed
  updater : Updater.State
  deriving DecidableEq

def State.feed (s : State) (k : Camera) : Feed := s.feeds.get k

def State.setFeed (s : State) (k : Camera) (feed : Feed) : State :=
  { s with feeds := s.feeds.set k feed }

def State.setClient (s : State) (c : Client) : State :=
  { s with updater := { s.updater with client := c } }

inductive Event where
  | capture (k : Camera) (frame : CapturedFrame)
  | readByte (k : Camera) (now : Int64)
  | addFrame (k : Camera)
  | update (t₁ t₂ t₃ : Int64)
  | wake (t₁ t₂ t₃ : Int64)
  | assignMovieMode (j : Camera) (movie : Bool)
  | updateGui (j : Camera)
  | clickSyncMode (sync : Bool)
  | clickAuto
  deriving DecidableEq

def called (before after : ServerReader.State) : Bool :=
  (after.headers[before.headers.length]?).any (fun x => x.2)

def createFrame (k : Camera) (now : Int64) (read : ServerReader.Read) : Option ServerFrame :=
  read.image.map (fun image => ⟨image,read.header.timestamp,now,k.number⟩)

def readByte (k : Camera) (now : Int64) (received : UInt8) (rest : List UInt8) (s : State) : State :=
  let before := (s.feed k).reader
  let after := ServerReader.receive before received
  let t := s.setFeed k ⟨rest,after,after.reads[before.reads.length]?.bind (createFrame k now)⟩
  if called before after then t.setClient (s.updater.client.changeMode k.number .movie) else t

def step (filter : Int64 → Int64 → Int64) (s : State) : Event → Option State
  | .capture k frame => some (s.setFeed k { s.feed k with
      pending := (s.feed k).pending ++ frame.bytes })
  | .readByte k now =>
    match (s.feed k).reader.place, (s.feed k).receivedFrame, (s.feed k).pending with
    | .dead _, _, _ => none
    | _, none, received :: rest => some (readByte k now received rest s)
    | _, _, _ => none
  | .addFrame k =>
    match (s.feed k).receivedFrame with
    | some frame => some ((s.setFeed k { s.feed k with receivedFrame := none }).setClient
        (s.updater.client.addFrame filter frame))
    | none => none
  | .update t₁ t₂ t₃ =>
    match s.updater.place with
    | .outside => some { s with updater := Updater.update t₁ t₂ t₃ s.updater }
    | _ => none
  | .wake t₁ t₂ t₃ =>
    match s.updater.place with
    | .awaitFrame => some { s with updater := Updater.update t₁ t₂ t₃ s.updater }
    | .timedWait _ => some { s with updater := Updater.afterTimedWait t₁ t₂ s.updater }
    | _ => none
  | .assignMovieMode j movie => some (s.setClient (s.updater.client.assignMovieMode j movie))
  | .updateGui j => some (s.setClient (s.updater.client.notify (.camera j)))
  | .clickSyncMode sync => some (s.setClient (s.updater.client.setSyncMode sync))
  | .clickAuto => some (s.setClient s.updater.client.clickAuto)

def opened : Feed := ⟨[],ServerReader.start,none⟩

def system (filter : Int64 → Int64 → Int64) : Runs.System State Event where
  init := ⟨⟨opened,opened⟩,⟨.start,.outside,[]⟩⟩
  step := step filter

inductive Stepped (filter : Int64 → Int64 → Int64) (s : State) : Event → State → Prop
  | capture (k : Camera) (frame : CapturedFrame) : Stepped filter s (.capture k frame)
      (s.setFeed k { s.feed k with pending := (s.feed k).pending ++ frame.bytes })
  | readByte (k : Camera) (now : Int64) {received : UInt8} {rest : List UInt8} :
      (s.feed k).receivedFrame = none → (s.feed k).pending = received :: rest →
      Stepped filter s (.readByte k now) (readByte k now received rest s)
  | addFrame (k : Camera) {frame : ServerFrame} : (s.feed k).receivedFrame = some frame →
      Stepped filter s (.addFrame k) ((s.setFeed k { s.feed k with receivedFrame := none }).setClient
        (s.updater.client.addFrame filter frame))
  | advanced {e : Event} {u : Updater.State} : Updater.Advances s.updater u →
      (∀ k frame, e ≠ .capture k frame) → Stepped filter s e { s with updater := u }

theorem untouched_clicked {s : State} {c : Client} (h : Client.Untouched s.updater.client c) :
    Updater.Advances s.updater { s.updater with client := c } := .waits h rfl

theorem stepped {filter : Int64 → Int64 → Int64} {s t : State} {e : Event}
    (h : step filter s e = some t) : Stepped filter s e t := by
  cases e with
  | capture k frame =>
    cases h
    exact .capture k frame
  | readByte k now =>
    simp only [step] at h
    split at h
    · cases h
    · next received rest hnone hpending _ =>
      cases h
      exact .readByte k now hnone hpending
    · cases h
  | addFrame k =>
    simp only [step] at h
    split at h
    · next frame hframe =>
      cases h
      exact .addFrame k hframe
    · cases h
  | update t₁ t₂ t₃ =>
    simp only [step] at h
    split at h
    · cases h
      exact .advanced (Updater.advances_update t₁ t₂ t₃ _) nofun
    · cases h
  | wake t₁ t₂ t₃ =>
    simp only [step] at h
    split at h
    · cases h
      exact .advanced (Updater.advances_update t₁ t₂ t₃ _) nofun
    · cases h
      exact .advanced (Updater.advances_afterTimedWait t₁ t₂ _) nofun
    · cases h
  | assignMovieMode j movie =>
    cases h
    exact .advanced (untouched_clicked (Client.untouched_setModel rfl rfl)) nofun
  | updateGui j =>
    cases h
    exact .advanced (untouched_clicked (Client.untouched_notify _ _)) nofun
  | clickSyncMode sync =>
    cases h
    exact .advanced (untouched_clicked (Client.untouched_setSyncMode sync _)) nofun
  | clickAuto =>
    cases h
    exact .advanced (untouched_clicked (Client.untouched_clickAuto _)) nofun

def captured (k : Camera) (events : List Event) : List CapturedFrame :=
  events.flatMap (fun e => match e with
    | .capture j frame => if j = k then [frame] else []
    | _ => [])

theorem captured_snoc (k : Camera) (events : List Event) (e : Event) :
    captured k (events ++ [e]) = captured k events ++ captured k [e] := List.flatMap_append

theorem captured_other {k : Camera} {e : Event} (h : ∀ j frame, e ≠ .capture j frame) :
    captured k [e] = [] := by
  cases e with
  | capture j frame => exact absurd rfl (h j frame)
  | _ => rfl

@[simp] theorem feed_setFeed (s : State) (k : Camera) (f : Feed) : (s.setFeed k f).feed k = f :=
  PerCamera.get_set _ k f

theorem feed_setFeed_ne (s : State) {j k : Camera} (h : j ≠ k) (f : Feed) :
    (s.setFeed k f).feed j = s.feed j := PerCamera.get_set_ne _ h f

def key (frame : ServerFrame) : ℤ × List UInt8 := (frame.sentTime,frame.image)

def readKey (read : ServerReader.Read) : Option (ℤ × List UInt8) :=
  read.image.map (fun image => (read.header.timestamp.toInt,image))

def capturedKey (frame : CapturedFrame) : ℤ × List UInt8 := (frame.timeUnix.toNat,frame.data)

theorem reads_receive (s : ServerReader.State) (b : UInt8) :
    (ServerReader.receive s b).reads = s.reads ∨
      ∃ read, (ServerReader.receive s b).reads = s.reads ++ [read] := by
  cases hplace : s.place with
  | awaitStartFlag i =>
    simp only [ServerReader.receive,hplace]
    split_ifs <;> exact .inl rfl
  | receiveHeader header =>
    simp only [ServerReader.receive,hplace]
    split_ifs
    · simp only [ServerReader.parseHeader]
      split_ifs
      · exact .inr ⟨_,rfl⟩
      · exact .inr ⟨_,rfl⟩
      · exact .inl rfl
      · exact .inl rfl
    · exact .inl rfl
  | receiveImage header image =>
    simp only [ServerReader.receive,hplace,ServerReader.storeByte]
    split_ifs
    · exact .inr ⟨_,rfl⟩
    · exact .inl rfl
    · exact .inl rfl
  | dead exception =>
    simp only [ServerReader.receive,hplace]
    exact .inl trivial

theorem reads_feed (bytes : List UInt8) (s : ServerReader.State) :
    s.reads <+: (ServerReader.feed bytes s).reads := by
  induction bytes generalizing s with
  | nil => exact List.prefix_rfl
  | cons b bytes ih =>
    rw [ServerReader.feed_cons]
    refine List.IsPrefix.trans ?_ (ih _)
    rcases reads_receive s b with h | ⟨read,h⟩
    · rw [h]
    · rw [h]
      exact List.prefix_append _ _

theorem readKey_decode (read : ServerReader.Read) :
    readKey read = (WireFormat.decode read).map (fun x => (x.1,x.2.2)) := by
  rw [readKey,WireFormat.decode,Option.map_map]
  rfl

theorem readKeys_stream (frames : List CapturedFrame) :
    (ServerReader.feed (WireFormat.stream frames) ServerReader.start).reads.filterMap readKey =
      frames.map capturedKey := by
  have hreads := (WireFormat.feed_stream frames ServerReader.start rfl).2
  have hkeys : ∀ reads : List ServerReader.Read, reads.filterMap readKey =
      (reads.map WireFormat.decode).filterMap (fun d => d.map (fun x => (x.1,x.2.2))) := by
    intro reads
    rw [List.filterMap_map]
    exact List.filterMap_congr (fun read _ => readKey_decode read)
  have hstart : ServerReader.start.reads = [] := rfl
  rw [hkeys,hreads,hstart,List.map_nil,List.nil_append,List.filterMap_map]
  exact congrFun List.filterMap_eq_map frames

structure Delivering (events : List Event) (k : Camera) (s : State) : Prop where
  consumed : ∃ consumed, consumed ++ (s.feed k).pending = WireFormat.stream (captured k events) ∧
    (s.feed k).reader = ServerReader.feed consumed ServerReader.start
  delivered : ((FrameQueue.ofServer k.number (FrameQueue.departures s.updater.queue) ++
    (s.feed k).receivedFrame.toList).map key).Perm ((s.feed k).reader.reads.filterMap readKey)
  labelled : ∀ frame ∈ (s.feed k).receivedFrame, frame.server = k.number

theorem newRead_receive (s : ServerReader.State) (b : UInt8) :
    (ServerReader.receive s b).reads.filterMap readKey = s.reads.filterMap readKey ++
      (((ServerReader.receive s b).reads[s.reads.length]?).bind readKey).toList := by
  rcases reads_receive s b with h | ⟨read,h⟩
  · rw [h,List.getElem?_eq_none (Nat.le_refl _)]
    exact (List.append_nil _).symm
  · rw [h,List.filterMap_append,List.getElem?_concat_length]
    cases hkey : readKey read <;> simp [hkey]

theorem key_createFrame (k : Camera) (now : Int64) (read : Option ServerReader.Read) :
    ((read.bind (createFrame k now)).map key) = read.bind readKey := by
  cases read with
  | none => rfl
  | some read =>
    obtain ⟨header,image⟩ := read
    cases image <;> rfl

theorem feed_readByte (k : Camera) (now : Int64) (received : UInt8) (rest : List UInt8) (s : State)
    (j : Camera) : (readByte k now received rest s).feed j =
      (s.setFeed k ⟨rest,ServerReader.receive (s.feed k).reader received,
        (ServerReader.receive (s.feed k).reader received).reads[(s.feed k).reader.reads.length]?.bind
          (createFrame k now)⟩).feed j := by
  simp only [readByte]
  split_ifs <;> rfl

theorem advances_readByte (k : Camera) (now : Int64) (received : UInt8) (rest : List UInt8)
    (s : State) : Updater.Advances s.updater (readByte k now received rest s).updater := by
  simp only [readByte]
  split_ifs
  · exact untouched_clicked (Client.untouched_announced k _)
  · exact .waits (.refl _) rfl

theorem delivering_of_feed {events : List Event} {e : Event} {k : Camera} {s t : State}
    (h : Delivering events k s) (hcaptured : captured k [e] = []) (hfeed : t.feed k = s.feed k)
    (hdepartures : FrameQueue.ofServer k.number (FrameQueue.departures t.updater.queue) =
      FrameQueue.ofServer k.number (FrameQueue.departures s.updater.queue)) :
    Delivering (events ++ [e]) k t := by
  refine ⟨?_,?_,?_⟩
  · rw [captured_snoc,hcaptured,List.append_nil,hfeed]
    exact h.consumed
  · rw [hdepartures,hfeed]
    exact h.delivered
  · rw [hfeed]
    exact h.labelled

theorem delivering_capture {events : List Event} {k j : Camera} {frame : CapturedFrame} {s : State}
    (h : Delivering events k s) :
    Delivering (events ++ [.capture j frame]) k (s.setFeed j { s.feed j with
      pending := (s.feed j).pending ++ frame.bytes }) := by
  rcases eq_or_ne k j with rfl | hkj
  · obtain ⟨consumed,hbytes,hreader⟩ := h.consumed
    refine ⟨⟨consumed,?_,?_⟩,?_,?_⟩
    · rw [captured_snoc,feed_setFeed,WireFormat.stream,List.flatMap_append,← WireFormat.stream,
        ← hbytes,List.append_assoc]
      simp [captured]
    · rw [feed_setFeed]
      exact hreader
    · rw [feed_setFeed]
      exact h.delivered
    · rw [feed_setFeed]
      exact h.labelled
  · refine delivering_of_feed h ?_ (feed_setFeed_ne s hkj _) rfl
    simp [captured,hkj.symm]

theorem delivering_readByte {events : List Event} {k j : Camera} {now : Int64} {received : UInt8}
    {rest : List UInt8} {s : State} (h : Delivering events k s)
    (hnone : (s.feed j).receivedFrame = none) (hpending : (s.feed j).pending = received :: rest) :
    Delivering (events ++ [.readByte j now]) k (readByte j now received rest s) := by
  have hdepartures := Updater.departures_advances (advances_readByte j now received rest s)
  rcases eq_or_ne k j with rfl | hkj
  · obtain ⟨consumed,hbytes,hreader⟩ := h.consumed
    have hdelivered := h.delivered
    rw [hnone,Option.toList_none,List.append_nil] at hdelivered
    refine ⟨⟨consumed ++ [received],?_,?_⟩,?_,?_⟩
    · have hsilent : captured k [.readByte k now] = [] := rfl
      rw [captured_snoc,hsilent,List.append_nil,feed_readByte,feed_setFeed,← hbytes,hpending,
        List.append_assoc]
      rfl
    · rw [feed_readByte,feed_setFeed,ServerReader.feed_append,← hreader]
      rfl
    · rw [hdepartures,feed_readByte,feed_setFeed,List.map_append,newRead_receive,
        ← Option.toList_map,key_createFrame]
      exact hdelivered.append_right _
    · rw [feed_readByte,feed_setFeed]
      intro frame hframe
      obtain ⟨read,-,hcreate⟩ := Option.bind_eq_some_iff.mp hframe
      obtain ⟨image,-,rfl⟩ := Option.map_eq_some_iff.mp hcreate
      rfl
  · refine delivering_of_feed h (captured_other nofun) ?_ (by rw [hdepartures])
    rw [feed_readByte,feed_setFeed_ne s hkj]

theorem queue_addFrame (filter : Int64 → Int64 → Int64) (k : Camera) (f : Feed)
    (frame : ServerFrame) (s : State) :
    ((s.setFeed k f).setClient (s.updater.client.addFrame filter frame)).updater.queue =
      { s.updater.queue with buffer := s.updater.queue.buffer.add frame } :=
  Updater.queue_add filter s.updater frame

theorem ofServer_add_other {server : Int32} {frame : ServerFrame} (s : FrameQueue.State)
    (h : frame.server ≠ server) :
    FrameQueue.ofServer server (FrameQueue.departures { s with buffer := s.buffer.add frame }) =
      FrameQueue.ofServer server (FrameQueue.departures s) := by
  have hadd : FrameQueue.ofServer server
      (FrameQueue.departures { s with buffer := s.buffer.add frame }) =
        FrameQueue.ofServer server (FrameQueue.departures s ++ [frame]) :=
    (FrameQueue.add_in_order_iff rfl (fun hserver => absurd hserver h)).mpr
      (fun hserver => absurd hserver h)
  rw [hadd,FrameQueue.ofServer_append,FrameQueue.ofServer_cons_other h]
  exact List.append_nil _

theorem ofServer_add_same {server : Int32} {frame : ServerFrame} (s : FrameQueue.State)
    (h : frame.server = server) :
    (FrameQueue.ofServer server
      (FrameQueue.departures { s with buffer := s.buffer.add frame })).Perm
        (FrameQueue.ofServer server (FrameQueue.departures s) ++ [frame]) := by
  have hadded := (FrameQueue.departures_add s frame).filter (fun f => f.server = server)
  rw [List.filter_append] at hadded
  have hown : [frame].filter (fun f => f.server = server) = [frame] :=
    List.filter_cons_of_pos (by simpa using h)
  rwa [hown] at hadded

theorem delivering_addFrame {events : List Event} {k j : Camera} {frame : ServerFrame} {s t : State}
    (h : Delivering events k s) (hlabelled : frame.server = j.number)
    (hframe : (s.feed j).receivedFrame = some frame)
    (hfeeds : t.feeds = (s.setFeed j { s.feed j with receivedFrame := none }).feeds)
    (hqueue : t.updater.queue =
      { s.updater.queue with buffer := s.updater.queue.buffer.add frame }) :
    Delivering (events ++ [.addFrame j]) k t := by
  rcases eq_or_ne k j with rfl | hkj
  · have hfeed : t.feed k = { s.feed k with receivedFrame := none } := by
      rw [State.feed,hfeeds]
      exact feed_setFeed s k _
    have hdelivered := h.delivered
    rw [hframe] at hdelivered
    have hsilent : captured k [.addFrame k] = [] := rfl
    refine ⟨?_,?_,?_⟩
    · rw [captured_snoc,hsilent,List.append_nil,hfeed]
      exact h.consumed
    · rw [hqueue,hfeed,Option.toList_none,List.append_nil]
      exact ((ofServer_add_same s.updater.queue hlabelled).map key).trans hdelivered
    · rw [hfeed]
      nofun
  · refine delivering_of_feed h rfl ?_ ?_
    · rw [State.feed,hfeeds]
      exact feed_setFeed_ne s hkj _
    · rw [hqueue]
      apply ofServer_add_other
      rw [hlabelled]
      exact Client.number_ne hkj

theorem delivering_step {filter : Int64 → Int64 → Int64} {events : List Event} {s t : State}
    {e : Event} (h : ∀ k, Delivering events k s) (hs : step filter s e = some t) (k : Camera) :
    Delivering (events ++ [e]) k t := by
  cases stepped hs with
  | capture j frame => exact delivering_capture (h k)
  | readByte j now hnone hpending => exact delivering_readByte (h k) hnone hpending
  | @addFrame j frame hframe =>
    exact delivering_addFrame (h k) ((h j).labelled frame hframe) hframe rfl
      (queue_addFrame filter j _ frame s)
  | advanced hadvances hother =>
    exact delivering_of_feed (h k) (captured_other hother) rfl
      (by rw [Updater.departures_advances hadvances])

theorem delivering_run {filter : Int64 → Int64 → Int64} {events : List Event} {s : State}
    (hrun : (system filter).run events = some s) (k : Camera) : Delivering events k s := by
  induction events using List.reverseRecOn generalizing s k with
  | nil =>
    cases hrun
    cases k <;> exact ⟨⟨[],rfl,rfl⟩,.refl _,nofun⟩
  | append_singleton events e ih =>
    obtain ⟨t,ht,hstep⟩ := (system filter).run_snoc_some.mp hrun
    exact delivering_step (ih ht) hstep k

theorem reads_captured {events : List Event} {k : Camera} {s : State} (h : Delivering events k s) :
    (s.feed k).reader.reads.filterMap readKey <+: (captured k events).map capturedKey := by
  obtain ⟨consumed,hbytes,hreader⟩ := h.consumed
  rw [hreader,← readKeys_stream,← hbytes,ServerReader.feed_append]
  exact (reads_feed _ _).filterMap readKey

def InTime (frames : List CapturedFrame) : Prop :=
  frames.Pairwise (fun earlier later => earlier.timeUnix < later.timeUnix)

def Handed (frames : List ServerFrame) (k : Camera) (s : State) : Prop :=
  (FrameQueue.ofServer k.number frames ++ (s.feed k).receivedFrame.toList).map key =
    (s.feed k).reader.reads.filterMap readKey

theorem handed_of_feed {frames : List ServerFrame} {k : Camera} {s t : State}
    (h : Handed frames k s) (hfeed : t.feed k = s.feed k) : Handed frames k t := by
  rw [Handed,hfeed]
  exact h

theorem handed_capture {frames : List ServerFrame} {k : Camera} {s : State} (h : Handed frames k s)
    (j : Camera) (frame : CapturedFrame) : Handed frames k (s.setFeed j { s.feed j with
      pending := (s.feed j).pending ++ frame.bytes }) := by
  rcases eq_or_ne k j with rfl | hkj
  · rw [Handed,feed_setFeed]
    exact h
  · exact handed_of_feed h (feed_setFeed_ne s hkj _)

theorem handed_readByte {frames : List ServerFrame} {k j : Camera} {s : State}
    (h : Handed frames k s) (hnone : (s.feed j).receivedFrame = none) (now : Int64)
    (received : UInt8) (rest : List UInt8) : Handed frames k (readByte j now received rest s) := by
  rcases eq_or_ne k j with rfl | hkj
  · rw [Handed,hnone,Option.toList_none,List.append_nil] at h
    rw [Handed,feed_readByte,feed_setFeed,List.map_append,newRead_receive,← Option.toList_map,
      key_createFrame,h]
  · refine handed_of_feed h ?_
    rw [feed_readByte,feed_setFeed_ne s hkj]

theorem handed_addFrame {frames : List ServerFrame} {k j : Camera} {s t : State}
    {frame : ServerFrame} (h : Handed frames k s) (hserver : frame.server = j.number)
    (hframe : (s.feed j).receivedFrame = some frame)
    (hfeeds : t.feeds = (s.setFeed j { s.feed j with receivedFrame := none }).feeds) :
    Handed (frames ++ [frame]) k t := by
  rw [Handed,FrameQueue.ofServer_append]
  rcases eq_or_ne k j with rfl | hkj
  · have hfeed : t.feed k = { s.feed k with receivedFrame := none } := by
      rw [State.feed,hfeeds]
      exact feed_setFeed s k _
    rw [Handed,hframe] at h
    rw [hfeed,FrameQueue.ofServer_cons_same hserver,Option.toList_none,List.append_nil]
    exact h
  · have hfeed : t.feed k = s.feed k := by
      rw [State.feed,hfeeds]
      exact feed_setFeed_ne s hkj _
    have hother : frame.server ≠ k.number := by
      rw [hserver]
      exact Client.number_ne hkj
    have hnil : FrameQueue.ofServer k.number [] = [] := rfl
    rw [hfeed,FrameQueue.ofServer_cons_other hother,hnil,List.append_nil]
    exact h

def InOrder (k : Camera) (s : State) : Prop :=
  Handed (FrameQueue.departures s.updater.queue) k s

theorem reads_inTime {events : List Event} {k : Camera} {s : State} (h : Delivering events k s)
    (htime : InTime (captured k events)) :
    ((s.feed k).reader.reads.filterMap readKey).Pairwise (fun x y => x.1 < y.1) := by
  refine List.Pairwise.sublist (reads_captured h).sublist (List.pairwise_map.mpr ?_)
  refine htime.imp (fun hlt => ?_)
  exact Int.ofNat_lt.mpr hlt

theorem inOrder_addFrame {filter : Int64 → Int64 → Int64} {k : Camera} {frame : ServerFrame}
    {s : State} {events : List Event} (h : Delivering events k s) (hin : InOrder k s)
    (htime : InTime (captured k events)) (hframe : (s.feed k).receivedFrame = some frame) :
    InOrder k ((s.setFeed k { s.feed k with receivedFrame := none }).setClient
      (s.updater.client.addFrame filter frame)) := by
  have horder := reads_inTime h htime
  have hbefore := hin
  rw [InOrder,Handed,hframe,Option.toList_some] at hbefore
  rw [← hbefore,List.pairwise_map,List.pairwise_append] at horder
  obtain ⟨-,-,hlast⟩ := horder
  have hearlier : ∀ f ∈ FrameQueue.ofServer k.number (FrameQueue.departures s.updater.queue),
      f.sentTime < frame.sentTime := fun f hf => hlast f hf frame (by simp)
  have hadd : FrameQueue.ofServer k.number (FrameQueue.departures
      { s.updater.queue with buffer := s.updater.queue.buffer.add frame }) =
        FrameQueue.ofServer k.number (FrameQueue.departures s.updater.queue ++ [frame]) := by
    refine (FrameQueue.add_in_order_iff rfl (fun _ f hf => (hearlier f hf).le)).mpr ?_
    intro _ held hheld hsame htied
    have hmem : held ∈ FrameQueue.ofServer k.number (FrameQueue.departures s.updater.queue) := by
      simp [FrameQueue.ofServer,FrameQueue.departures,hheld,hsame]
    have hlt := hearlier held hmem
    rw [ServerFrame.sentTime,htied] at hlt
    exact absurd hlt (lt_irrefl _)
  rw [InOrder,Handed,queue_addFrame,hadd]
  exact handed_addFrame hin (h.labelled frame hframe) hframe rfl

theorem inOrder_of_departures {k : Camera} {s t : State}
    (h : Handed (FrameQueue.departures s.updater.queue) k t)
    (hdepartures : FrameQueue.ofServer k.number (FrameQueue.departures t.updater.queue) =
      FrameQueue.ofServer k.number (FrameQueue.departures s.updater.queue)) : InOrder k t := by
  rw [InOrder,Handed,hdepartures]
  exact h

theorem inOrder_step {filter : Int64 → Int64 → Int64} {events : List Event} {s t : State} {e : Event}
    {k : Camera} (h : ∀ j, Delivering events j s) (hin : InOrder k s)
    (htime : InTime (captured k events)) (hs : step filter s e = some t) : InOrder k t := by
  cases stepped hs with
  | capture j frame => exact handed_capture hin j frame
  | @readByte j now received rest hnone hpending =>
    refine inOrder_of_departures (handed_readByte hin hnone now received rest) ?_
    rw [Updater.departures_advances (advances_readByte j now received rest s)]
  | @addFrame j frame hframe =>
    rcases eq_or_ne k j with rfl | hkj
    · exact inOrder_addFrame (h k) hin htime hframe
    · refine inOrder_of_departures (handed_of_feed hin (feed_setFeed_ne s hkj _)) ?_
      rw [queue_addFrame]
      refine ofServer_add_other _ ?_
      rw [(h j).labelled frame hframe]
      cases j <;> cases k <;> first | decide | exact absurd rfl hkj
  | advanced hadvances hother =>
    exact inOrder_of_departures hin (by rw [Updater.departures_advances hadvances])

theorem inOrder_run {filter : Int64 → Int64 → Int64} {events : List Event} {s : State} {k : Camera}
    (hrun : (system filter).run events = some s) (htime : InTime (captured k events)) :
    InOrder k s := by
  induction events using List.reverseRecOn generalizing s with
  | nil =>
    cases hrun
    cases k <;> rfl
  | append_singleton events e ih =>
    obtain ⟨t,ht,hstep⟩ := (system filter).run_snoc_some.mp hrun
    rw [captured_snoc] at htime
    have hbefore := (List.pairwise_append.mp htime).1
    exact inOrder_step (delivering_run ht) (ih ht hbefore) hbefore hstep

theorem onScreen_run {filter : Int64 → Int64 → Int64} {events : List Event} {s : State}
    (hrun : (system filter).run events = some s) : Updater.OnScreen s.updater := by
  refine (system filter).invariant (I := fun s => Updater.OnScreen s.updater) (fun k => ?_) ?_ hrun
  · cases k <;> exact ⟨rfl,rfl⟩
  · intro s e t h hstep
    cases stepped hstep with
    | capture j frame => exact h
    | readByte j now hnone hpending => exact Updater.onScreen_advances h (advances_readByte j now _ _ s)
    | @addFrame j frame hframe =>
      intro k
      have hmodel := Client.model_addFrame filter frame s.updater.client k
      exact ⟨(congrArg CameraControlModel.image hmodel).trans (h k).image,
        (congrArg CameraControlModel.delayTime hmodel).trans (h k).delayTime⟩
    | advanced hadvances hother => exact Updater.onScreen_advances h hadvances

def shown (k : Camera) (s : State) : List ServerFrame :=
  FrameQueue.ofServer k.number (s.updater.popped.map Updater.Popped.frame)

def buffered (k : Camera) (s : State) : List ServerFrame :=
  FrameQueue.ofServer k.number s.updater.client.frames.frames.reverse

theorem ofServer_departures (k : Camera) (s : State) :
    FrameQueue.ofServer k.number (FrameQueue.departures s.updater.queue) =
      shown k s ++ buffered k s := FrameQueue.ofServer_append _ _ _

theorem captured_frames_shown (filter : Int64 → Int64 → Int64) (events : List Event) (s : State)
    (hrun : (system filter).run events = some s) (k : Camera) :
    (∃ received inFlight, (captured k events).map capturedKey = received ++ inFlight ∧
      ((shown k s ++ buffered k s ++ (s.feed k).receivedFrame.toList).map key).Perm received ∧
      ((s.feed k).pending = [] → inFlight = [])) ∧
    (InTime (captured k events) →
      (shown k s).map key <+: (captured k events).map capturedKey) ∧
    Client.Displays k (shown k s).getLast? s.updater.client := by
  have hdelivering := delivering_run hrun k
  refine ⟨?_,fun htime => ?_,onScreen_run hrun k⟩
  · obtain ⟨inFlight,hread_captured⟩ := reads_captured hdelivering
    have hdelivered := hdelivering.delivered
    rw [ofServer_departures] at hdelivered
    refine ⟨_,inFlight,hread_captured.symm,hdelivered,fun hpending => ?_⟩
    obtain ⟨consumed,hbytes,hreader⟩ := hdelivering.consumed
    rw [hpending,List.append_nil] at hbytes
    rw [hreader,hbytes,readKeys_stream] at hread_captured
    exact List.append_right_eq_self.mp hread_captured
  · have hin := inOrder_run hrun htime
    rw [InOrder,Handed,ofServer_departures,List.append_assoc,List.map_append] at hin
    have hread : (shown k s).map key <+: (s.feed k).reader.reads.filterMap readKey := by
      rw [← hin]
      exact List.prefix_append _ _
    exact hread.trans (reads_captured hdelivering)

def capturedAt (timeUnix : UInt64) (pixel : UInt8) (h : timeUnix.toNat < 2 ^ 63) :
    CapturedFrame where
  writer := ⟨.movie,2⟩
  timeUnix := timeUnix
  data := [pixel]
  time_fits := h
  data_nonempty := Nat.le_refl _
  data_fits := by simp

def twoCaptures : List Event :=
  [.capture .one (capturedAt 5 1 (by decide)),.capture .two (capturedAt 4 2 (by decide)),
    .capture .one (capturedAt 6 3 (by decide))] ++
  List.replicate 24 (.readByte .one 7) ++ [.addFrame .one] ++
  List.replicate 24 (.readByte .two 8) ++ [.addFrame .two,.update 9 9 9,.update 9 9 9]

theorem captured_frames_shown_twoCaptures :
    ∃ s, (system Client.exactFilter).run twoCaptures = some s ∧
      (shown .one s).map key = [(5,[1])] ∧ (shown .two s).map key = [(4,[2])] ∧
      (shown .one s).map key <+: (captured .one twoCaptures).map capturedKey ∧
      (s.updater.client.model .two).image = [2] ∧ (s.updater.client.model .two).delayTime = 4 := by
  refine ⟨_,rfl,by decide,by decide,?_,?_⟩
  · exact (captured_frames_shown Client.exactFilter twoCaptures _ rfl .one).2.1
      (by unfold InTime; decide)
  · have h := (captured_frames_shown Client.exactFilter twoCaptures _ rfl .two).2.2
    exact ⟨h.image,h.delayTime⟩

end VideoSurveillance.Surveillance
