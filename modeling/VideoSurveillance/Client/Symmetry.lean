import VideoSurveillance.Client.Update

namespace VideoSurveillance

namespace Camera

def swapNumber (server : Int32) : Int32 :=
  if 1 = server then 2 else if 2 = server then 1 else server

theorem ofNumber_swap (server : Int32) :
    ofNumber (swapNumber server) = (ofNumber server).map other := by
  unfold swapNumber
  split_ifs with h₁ h₂
  · subst h₁
    rfl
  · subst h₂
    rfl
  · simp [ofNumber,h₁,h₂]

end Camera

def ServerFrame.swap (frame : ServerFrame) : ServerFrame :=
  { frame with server := Camera.swapNumber frame.server }

@[simp] theorem ServerFrame.sent_swap (frame : ServerFrame) : frame.swap.sent = frame.sent := rfl

namespace FrameBuffer

def swap (b : FrameBuffer) : FrameBuffer where
  frames := b.frames.map ServerFrame.swap
  newestFirst := Descending.ordered_map _ _ _ (fun _ => rfl) b.newestFirst

@[simp] theorem size_swap (b : FrameBuffer) : b.swap.size = b.size := List.length_map _

@[simp] theorem peek_swap (b : FrameBuffer) : b.swap.peek = b.peek.map ServerFrame.swap :=
  List.getLast?_map

theorem pop_swap (b : FrameBuffer) : b.swap.pop = b.pop.map (Prod.map ServerFrame.swap swap) := by
  unfold pop
  rw [peek_swap]
  cases b.peek with
  | none => rfl
  | some frame => simp [swap]

theorem add_swap (b : FrameBuffer) (frame : ServerFrame) :
    b.swap.add frame.swap = (b.add frame).swap := by
  simp only [add,swap,insertWalk_place,mk.injEq]
  exact Descending.place_map _ _ _ (fun _ => rfl) frame b.frames

end FrameBuffer

def Observable.swap : Observable → Observable
  | .camera k => .camera k.other
  | .settings => .settings

namespace Client

def swap (c : Client) : Client :=
  { c with
    movingAverageServer := c.movingAverageServer.swap
    frames := c.frames.swap
    currentCameraMode := c.currentCameraMode.swap
    camera := c.camera.swap }

@[simp] theorem frames_swap (c : Client) : c.swap.frames = c.frames.swap := rfl

@[simp] theorem currentState_swap (c : Client) : c.swap.currentState = c.currentState := rfl

@[simp] theorem currentSyncTimeMs_swap (c : Client) :
    c.swap.currentSyncTimeMs = c.currentSyncTimeMs := rfl

@[simp] theorem syncAuto_swap (c : Client) : c.swap.syncAuto = c.syncAuto := rfl

@[simp] theorem average_swap (c : Client) :
    c.swap.movingAverageServer = c.movingAverageServer.swap := rfl

@[simp] theorem mode_swap (c : Client) (k : Camera) : c.swap.mode k.other = c.mode k :=
  PerCamera.swap_get_other _ k

@[simp] theorem model_swap (c : Client) (k : Camera) : c.swap.model k.other = c.model k :=
  PerCamera.swap_get_other _ k

theorem setMode_swap (c : Client) (k : Camera) (m : Mode) :
    c.swap.setMode k.other m = (c.setMode k m).swap := by
  simp [setMode,swap]

theorem setModel_swap (c : Client) (k : Camera) (m : CameraControlModel) :
    c.swap.setModel k.other m = (c.setModel k m).swap := by
  simp [setModel,swap]

theorem notify_swap (o : Observable) (c : Client) :
    notify o.swap c.swap = (notify o c).swap := by
  cases o with
  | camera k =>
    change notify (.camera k.other) c.swap = _
    rcases notify_camera_cases k c with ⟨hon,hn⟩ | ⟨hon,hm,hn⟩ | ⟨hon,hm,hn⟩
    · rw [hn,notify_camera_on (by rwa [model_swap]),setMode_swap]
    · rw [hn,notify_camera_idle (by rwa [model_swap]) (by rwa [mode_swap])]
    · rw [hn,notify_camera_off (by rwa [model_swap]) (by rwa [mode_swap]),← setMode_swap]
      simp only [assignMotionDetected,model_swap,setModel_swap]
  | settings =>
    change notify .settings c.swap = _
    rcases eq_or_ne c.settings.syncModeOn c.currentState with hs | hs
    · rw [notify_settings_agrees hs,notify_settings_agrees (c := c.swap) hs]
      rfl
    · rw [notify_settings_differs hs,notify_settings_differs (c := c.swap) hs]
      rfl

theorem setNewImage_swap (k : Camera) (image : List UInt8) (c : Client) :
    c.swap.setNewImage k.other image = (c.setNewImage k image).swap := by
  simp only [setNewImage,assignImage,model_swap,setModel_swap]
  exact notify_swap (.camera k) _

theorem setDelayTime_swap (k : Camera) (time : Int32) (c : Client) :
    c.swap.setDelayTime k.other time = (c.setDelayTime k time).swap := by
  simp only [setDelayTime,assignDelayTime,model_swap,setModel_swap]
  exact notify_swap (.camera k) _

theorem showFrame_swap (frame : ServerFrame) (c : Client) :
    c.swap.showFrame frame.swap = (c.showFrame frame).swap := by
  simp only [showFrame,ServerFrame.swap,Camera.ofNumber_swap]
  cases Camera.ofNumber frame.server with
  | none => rfl
  | some k => simp only [Option.map_some,setNewImage_swap,setDelayTime_swap]

theorem setSyncMode_swap (sync : Bool) (c : Client) :
    c.swap.setSyncMode sync = (c.setSyncMode sync).swap :=
  notify_swap .settings (c.assignSyncMode sync)

theorem clickAuto_swap (c : Client) : c.swap.clickAuto = c.clickAuto.swap := by
  have h := notify_swap .settings ({ c with autoButton := !c.autoButton }.assignAutoMode !c.autoButton)
  exact h

theorem addFrame_swap (filter : Int64 → Int64 → Int64) (frame : ServerFrame) (c : Client) :
    c.swap.addFrame filter frame.swap = (c.addFrame filter frame).swap := by
  have hbuffer := FrameBuffer.add_swap c.frames frame
  simp only [addFrame,ServerFrame.swap,Camera.ofNumber_swap] at hbuffer ⊢
  cases Camera.ofNumber frame.server with
  | none => simp [swap,hbuffer]
  | some k => simp [swap,hbuffer]

theorem abs_neg (a : Int64) : (-a).abs = a.abs := by
  apply Int64.toBitVec_inj.mp
  apply BitVec.eq_of_toInt_eq
  change (-a.toBitVec).abs.toInt = a.toBitVec.abs.toInt
  by_cases h : a.toBitVec = BitVec.intMin 64
  · rw [h,BitVec.neg_intMin]
  · have hn : -a.toBitVec ≠ BitVec.intMin 64 := by
      intro hn
      exact h (by rw [← BitVec.neg_neg (x := a.toBitVec),hn,BitVec.neg_intMin])
    rw [BitVec.toInt_abs_eq_natAbs_of_ne_intMin hn,BitVec.toInt_abs_eq_natAbs_of_ne_intMin h,
      BitVec.toInt_neg_of_ne_intMin h,Int.natAbs_neg]

@[simp] theorem averageGap_swap (c : Client) : c.swap.averageGap = c.averageGap := by
  have hneg : c.movingAverageServer.two - c.movingAverageServer.one =
      -(c.movingAverageServer.one - c.movingAverageServer.two) := by grind
  change (c.movingAverageServer.two - c.movingAverageServer.one).abs = _
  rw [hneg,abs_neg]
  rfl

theorem autoSynchronous_swap (c : Client) : c.swap.autoSynchronous = c.autoSynchronous.swap := by
  simp only [autoSynchronous,averageGap_swap,syncAuto_swap]
  split_ifs
  · exact setSyncMode_swap true { c with currentState := SYNCHRONOUS_MODE }
  · rfl

theorem autoAsynchronous_swap (c : Client) : c.swap.autoAsynchronous = c.autoAsynchronous.swap := by
  simp only [autoAsynchronous,averageGap_swap,syncAuto_swap]
  split_ifs
  · exact setSyncMode_swap false { c with currentState := ASYNCHRONOUS_MODE }
  · rfl

def AveragesAlike (c : Client) : Prop :=
  c.currentSyncTimeMs = 0 ∨
    (c.currentSyncTimeMs * 2 < c.movingAverageServer.one ↔
      c.currentSyncTimeMs * 2 < c.movingAverageServer.two)

theorem max_self (a : Int64) : max a a = a := ite_self a

theorem adaptSyncTime_zero {c : Client} (h : c.currentSyncTimeMs = 0) : c.adaptSyncTime = c := by
  have hfour : 4 * c.currentSyncTimeMs = c.currentSyncTimeMs := by rw [h]; rfl
  rw [adaptSyncTime,hfour,ite_self]

theorem adaptSyncTime_swap {c : Client} (h : c.AveragesAlike) :
    c.swap.adaptSyncTime = c.adaptSyncTime.swap := by
  rcases h with h | h
  · rw [adaptSyncTime_zero h,adaptSyncTime_zero (c := c.swap) h]
  · simp only [adaptSyncTime,max_self,currentSyncTimeMs_swap,average_swap,PerCamera.swap,h]
    split_ifs <;> rfl

theorem adaptSyncTime_differs {c : Client} (h : ¬ c.AveragesAlike) :
    c.swap.adaptSyncTime.currentSyncTimeMs ≠ c.adaptSyncTime.currentSyncTimeMs := by
  obtain ⟨hzero,hone⟩ := not_or.mp h
  have hfour : 4 * c.currentSyncTimeMs ≠ c.currentSyncTimeMs := by grind
  simp only [adaptSyncTime,max_self,currentSyncTimeMs_swap,average_swap,PerCamera.swap]
  split_ifs with h₂ h₁ h₁
  · exact absurd (by simp [h₁,h₂]) hone
  · exact hfour
  · exact hfour.symm
  · exact absurd (by simp [h₁,h₂]) hone

end Client

end VideoSurveillance

namespace VideoSurveillance.Updater

def Popped.swap (p : Popped) : Popped := { p with frame := p.frame.swap }

def State.swap (s : State) : State :=
  { s with client := s.client.swap, popped := s.popped.map Popped.swap }

@[simp] theorem client_swap (s : State) : s.swap.client = s.client.swap := rfl

@[simp] theorem place_swap (s : State) : s.swap.place = s.place := rfl

@[simp] theorem popped_swap (s : State) : s.swap.popped = s.popped.map Popped.swap := rfl

def Event.swap : Event → Event
  | .addFrame now frame => .addFrame now frame.swap
  | e => e

theorem finish_swap (c : Client) (frame : ServerFrame) (reading : Option Int64)
    (popped : List Popped) :
    finish c.swap frame.swap reading (popped.map Popped.swap) =
      (finish c frame reading popped).swap := by
  simp [finish,State.swap,Popped.swap,Client.showFrame_swap]

theorem asynchronousBranch_swap (s : State) :
    asynchronousBranch s.swap = (asynchronousBranch s).swap := by
  simp only [asynchronousBranch,client_swap,popped_swap,Client.frames_swap,FrameBuffer.pop_swap]
  cases s.client.frames.pop with
  | none => rfl
  | some x =>
    obtain ⟨frame,rest⟩ := x
    have hauto := Client.autoSynchronous_swap { s.client with frames := rest }
    have hfinish := finish_swap { s.client with frames := rest }.autoSynchronous frame none s.popped
    rw [← hauto] at hfinish
    exact hfinish

theorem synchronousPop_swap (r : Int64) (s : State) :
    synchronousPop r s.swap = (synchronousPop r s).swap := by
  simp only [synchronousPop,client_swap,popped_swap,Client.autoAsynchronous_swap,Client.frames_swap,
    FrameBuffer.pop_swap]
  cases s.client.autoAsynchronous.frames.pop with
  | none => rfl
  | some x =>
    obtain ⟨frame,rest⟩ := x
    exact finish_swap { s.client.autoAsynchronous with frames := rest } frame (some r) s.popped

theorem synchronousBranch_swap (t₁ t₂ t₃ : Int64) {s : State} (h : s.client.AveragesAlike) :
    synchronousBranch t₁ t₂ t₃ s.swap = (synchronousBranch t₁ t₂ t₃ s).swap := by
  have hpop : ∀ r, synchronousPop r { s.swap with client := s.client.adaptSyncTime.swap } =
      (synchronousPop r { s with client := s.client.adaptSyncTime }).swap :=
    fun r => synchronousPop_swap r { s with client := s.client.adaptSyncTime }
  simp only [synchronousBranch,client_swap,Client.adaptSyncTime_swap h,Client.frames_swap,
    FrameBuffer.peek_swap]
  cases s.client.adaptSyncTime.frames.peek with
  | none => rfl
  | some head =>
    simp only [Option.map_some,ServerFrame.sent_swap,Client.currentSyncTimeMs_swap]
    by_cases h₁ : head.sent + s.client.adaptSyncTime.currentSyncTimeMs > t₁
    · by_cases h₂ : head.sent + s.client.adaptSyncTime.currentSyncTimeMs > t₂
      · simp only [h₁,h₂,if_true]
        rfl
      · simp only [h₁,h₂,if_true,if_false]
        exact hpop t₃
    · simp only [h₁,if_false]
      exact hpop t₁

theorem afterTimedWait_swap (t₁ t₂ : Int64) (s : State) :
    afterTimedWait t₁ t₂ s.swap = (afterTimedWait t₁ t₂ s).swap := by
  simp only [afterTimedWait,client_swap,Client.frames_swap,FrameBuffer.peek_swap]
  cases s.client.frames.peek with
  | none => rfl
  | some head =>
    simp only [Option.map_some,ServerFrame.sent_swap,Client.currentSyncTimeMs_swap]
    by_cases h₁ : head.sent + s.client.currentSyncTimeMs > t₁
    · simp only [h₁,if_true]
      rfl
    · simp only [h₁,if_false]
      exact synchronousPop_swap t₂ s

def EntersUpdate (s : State) : Event → Prop
  | .update _ _ _ => s.place = .outside
  | .wake _ _ _ => s.place = .awaitFrame
  | _ => False

def AdaptsAlike (s : State) (e : Event) : Prop :=
  EntersUpdate s e → s.client.frames.size ≠ 0 → s.client.currentState = Client.SYNCHRONOUS_MODE →
    s.client.AveragesAlike

theorem update_swap (t₁ t₂ t₃ : Int64) {s : State}
    (h : s.client.frames.size ≠ 0 → s.client.currentState = Client.SYNCHRONOUS_MODE →
      s.client.AveragesAlike) :
    update t₁ t₂ t₃ s.swap = (update t₁ t₂ t₃ s).swap := by
  simp only [update,client_swap,Client.frames_swap,FrameBuffer.size_swap,Client.currentState_swap]
  by_cases h₀ : 0 = s.client.frames.size
  · simp only [h₀,if_true]
    rfl
  rcases eq_or_ne s.client.currentState Client.ASYNCHRONOUS_MODE with h₁ | h₁
  · simp only [h₀,h₁,if_true,if_false]
    exact asynchronousBranch_swap s
  · simp only [h₀,h₁,if_false]
    exact synchronousBranch_swap t₁ t₂ t₃ (h (Ne.symm h₀) (eq_true_of_ne_false h₁))

theorem step_swap (filter : Int64 → Int64 → Int64) (s : State) (e : Event) (h : AdaptsAlike s e) :
    step filter s.swap e.swap = (step filter s e).map State.swap := by
  cases e with
  | addFrame now frame =>
    simp [step,Event.swap,State.swap,Client.addFrame_swap]
  | update t₁ t₂ t₃ =>
    simp only [step,Event.swap,place_swap]
    cases hp : s.place with
    | outside => simp [update_swap t₁ t₂ t₃ (h hp)]
    | awaitFrame | timedWait | dead => rfl
  | wake t₁ t₂ t₃ =>
    simp only [step,Event.swap,place_swap]
    cases hp : s.place with
    | awaitFrame => simp [update_swap t₁ t₂ t₃ (h hp)]
    | timedWait n => simp [afterTimedWait_swap]
    | outside | dead => rfl
  | clickSyncMode sync => simp [step,Event.swap,State.swap,Client.setSyncMode_swap]
  | clickAuto => simp [step,Event.swap,State.swap,Client.clickAuto_swap]

structure Mirrors (s t : State) : Prop where
  currentState : t.client.currentState = s.client.currentState
  currentSyncTimeMs : t.client.currentSyncTimeMs = s.client.currentSyncTimeMs
  popped : t.popped = s.popped.map Popped.swap
  averages : t.client.movingAverageServer = s.client.movingAverageServer.swap
  cameras : t.client.camera = s.client.camera.swap

theorem mirrors_swap (s : State) : Mirrors s s.swap := ⟨rfl,rfl,rfl,rfl,rfl⟩

theorem synchronousPop_syncTime (r : Int64) (s : State) :
    (synchronousPop r s).client.currentSyncTimeMs = s.client.currentSyncTimeMs := by
  have hauto := (Client.samePlayout_autoAsynchronous s.client).currentSyncTimeMs
  simp only [synchronousPop]
  split
  · exact hauto
  · exact (Client.samePlayout_showFrame _ _).currentSyncTimeMs.trans hauto

theorem synchronousBranch_syncTime (t₁ t₂ t₃ : Int64) (s : State) :
    (synchronousBranch t₁ t₂ t₃ s).client.currentSyncTimeMs =
      s.client.adaptSyncTime.currentSyncTimeMs := by
  simp only [synchronousBranch]
  split
  · rfl
  · split_ifs
    · rfl
    · rw [synchronousPop_syncTime]
    · rw [synchronousPop_syncTime]

theorem step_adapts {filter : Int64 → Int64 → Int64} {s t : State} {e : Event}
    (he : EntersUpdate s e) (hsize : s.client.frames.size ≠ 0)
    (hstate : s.client.currentState = Client.SYNCHRONOUS_MODE) (h : step filter s e = some t) :
    t.client.currentSyncTimeMs = s.client.adaptSyncTime.currentSyncTimeMs := by
  have hupdate : ∀ t₁ t₂ t₃, update t₁ t₂ t₃ s = synchronousBranch t₁ t₂ t₃ s := by
    intro t₁ t₂ t₃
    simp [update,hsize.symm,hstate,Client.SYNCHRONOUS_MODE,Client.ASYNCHRONOUS_MODE]
  cases e with
  | update t₁ t₂ t₃ | wake t₁ t₂ t₃ =>
    have hp := he
    simp only [EntersUpdate] at hp
    simp only [step,hp,Option.some.injEq,hupdate] at h
    rw [← h,synchronousBranch_syncTime]
  | addFrame | clickSyncMode | clickAuto => exact he.elim

theorem not_mirrors_of_adapts {filter : Int64 → Int64 → Int64} {s t u : State} {e : Event}
    (hbad : ¬ AdaptsAlike s e) (ht : step filter s e = some t)
    (hu : step filter s.swap e.swap = some u) : ¬ Mirrors t u := by
  simp only [AdaptsAlike,Classical.not_imp] at hbad
  obtain ⟨he,hsize,hstate,havg⟩ := hbad
  have he' : EntersUpdate s.swap e.swap := by cases e <;> exact he
  have hsize' : s.swap.client.frames.size ≠ 0 := by simpa using hsize
  intro hm
  have hsync := hm.currentSyncTimeMs
  rw [step_adapts he hsize hstate ht,step_adapts he' hsize' hstate hu] at hsync
  exact Client.adaptSyncTime_differs havg hsync

theorem cameras_symmetric_iff (filter : Int64 → Int64 → Int64) (events : List Event) (s : State)
    (hrun : (system filter).run events = some s) :
    (system filter).Follows (system filter) Event.swap Mirrors events ↔
      (system filter).Meets AdaptsAlike events :=
  (system filter).follows_iff_meets (system filter) State.swap Event.swap rfl mirrors_swap
    (step_swap filter) (fun _ _ _ _ => not_mirrors_of_adapts) hrun

def slowCamera (server : Int32) : List Event :=
  [.clickSyncMode true,.addFrame 10003 ⟨[7],0,10003,server⟩,.update 10003 10003 10003]

theorem cameras_symmetric_iff_slowCamera :
    (system Client.exactFilter).Follows (system Client.exactFilter) Event.swap Mirrors
        (slowCamera 1) ↔
      (system Client.exactFilter).Meets AdaptsAlike (slowCamera 1) :=
  cameras_symmetric_iff Client.exactFilter (slowCamera 1) _ rfl

theorem slow_second_camera_ignored :
    ¬ ∀ (events : List Event) (s : State), (system Client.exactFilter).run events = some s →
      ∃ t, (system Client.exactFilter).run (events.map Event.swap) = some t ∧ Mirrors s t := by
  intro h
  obtain ⟨t,ht,hm⟩ := h (slowCamera 2) _ rfl
  obtain rfl := Option.some.inj ht
  exact absurd hm.currentSyncTimeMs (by decide)

end VideoSurveillance.Updater
