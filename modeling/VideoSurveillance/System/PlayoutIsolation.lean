import VideoSurveillance.Client.Settings
import VideoSurveillance.System.Surveillance

namespace VideoSurveillance.Client

def playoutPart (c : Client) : Client :=
  { c with camera := start.camera, currentCameraMode := start.currentCameraMode }

theorem playoutPart_eq {c d : Client} (h : SamePlayout c d) (k : SameSettings c d) :
    d.playoutPart = c.playoutPart := by
  simp only [playoutPart,h.frames,h.currentSyncTimeMs,h.movingAverageServer,k.settings,
    k.autoButton,k.syncAuto,k.currentState]

theorem playoutPart_notify_camera (k : Camera) (c : Client) :
    (notify (.camera k) c).playoutPart = c.playoutPart :=
  playoutPart_eq (samePlayout_notify (.camera k) c) (sameSettings_notify_camera k c)

theorem playoutPart_setMovieMode (k : Camera) (movie : Bool) (c : Client) :
    (c.setMovieMode k movie).playoutPart = c.playoutPart := playoutPart_notify_camera k _

theorem playoutPart_setMotionDetected (k : Camera) (motion : Bool) (c : Client) :
    (c.setMotionDetected k motion).playoutPart = c.playoutPart := playoutPart_notify_camera k _

theorem playoutPart_switchMovieModeOn (k : Camera) (c : Client) :
    (c.switchMovieModeOn k).playoutPart = c.playoutPart := by
  unfold switchMovieModeOn
  split_ifs
  · rfl
  · exact playoutPart_setMovieMode k true c

theorem playoutPart_announced (k : Camera) (c : Client) :
    (c.changeMode k.number .movie).playoutPart = c.playoutPart := by
  have hmode : ∀ d : Client, { d with currentCameraMode := ⟨.movie,.movie⟩ }.playoutPart =
      d.playoutPart := fun _ => rfl
  rw [changeMode_movie,hmode]
  unfold announceMotion
  rw [playoutPart_switchMovieModeOn,playoutPart_switchMovieModeOn,playoutPart_setMotionDetected,
    playoutPart_setMotionDetected]

theorem playoutPart_showFrame (frame : ServerFrame) (c : Client) :
    (c.showFrame frame).playoutPart = c.playoutPart :=
  playoutPart_eq (samePlayout_showFrame frame c) (sameSettings_showFrame frame c)

theorem playoutPart_addFrame (filter : Int64 → Int64 → Int64) (frame : ServerFrame) (c : Client) :
    (c.addFrame filter frame).playoutPart = c.playoutPart.addFrame filter frame := by
  unfold addFrame
  cases Camera.ofNumber frame.server <;> rfl

theorem playoutPart_notify_settings (c : Client) :
    (notify .settings c).playoutPart = notify .settings c.playoutPart := by
  rcases eq_or_ne c.settings.syncModeOn c.currentState with hs | hs
  · rw [notify_settings_agrees hs,notify_settings_agrees (c := c.playoutPart) hs]
    rfl
  · rw [notify_settings_differs hs,notify_settings_differs (c := c.playoutPart) hs]
    rfl

theorem playoutPart_setSyncMode (sync : Bool) (c : Client) :
    (c.setSyncMode sync).playoutPart = c.playoutPart.setSyncMode sync :=
  playoutPart_notify_settings _

theorem playoutPart_clickAuto (c : Client) : c.clickAuto.playoutPart = c.playoutPart.clickAuto :=
  playoutPart_notify_settings _

theorem playoutPart_adaptSyncTime (c : Client) :
    c.adaptSyncTime.playoutPart = c.playoutPart.adaptSyncTime := by
  unfold adaptSyncTime
  split_ifs with h h' h'
  · rfl
  · exact absurd h h'
  · exact absurd h' h
  · rfl

theorem playoutPart_autoSynchronous (c : Client) :
    c.autoSynchronous.playoutPart = c.playoutPart.autoSynchronous := by
  unfold autoSynchronous
  split_ifs with h h' h'
  · exact playoutPart_setSyncMode true _
  · exact absurd h h'
  · exact absurd h' h
  · rfl

theorem playoutPart_autoAsynchronous (c : Client) :
    c.autoAsynchronous.playoutPart = c.playoutPart.autoAsynchronous := by
  unfold autoAsynchronous
  split_ifs with h h' h'
  · exact playoutPart_setSyncMode false _
  · exact absurd h h'
  · exact absurd h' h
  · rfl

end VideoSurveillance.Client

namespace VideoSurveillance.Updater

def State.playout (s : State) : State := { s with client := s.client.playoutPart }

theorem playout_finish (c : Client) (frame : ServerFrame) (reading : Option Int64)
    (popped : List Popped) :
    (finish c frame reading popped).playout =
      ⟨c.playoutPart,.outside,popped ++ [⟨frame,reading⟩]⟩ := by
  rw [State.playout,finish,Client.playoutPart_showFrame]

theorem playout_asynchronousBranch (s : State) :
    (asynchronousBranch s).playout = (asynchronousBranch s.playout).playout := by
  have hframes : s.playout.client.frames = s.client.frames := rfl
  simp only [asynchronousBranch,hframes]
  cases s.client.frames.pop with
  | none => rfl
  | some p =>
    simp only [playout_finish,Client.playoutPart_autoSynchronous]
    rfl

theorem playout_synchronousPop (reading : Int64) (s : State) :
    (synchronousPop reading s).playout = (synchronousPop reading s.playout).playout := by
  have hauto : s.playout.client.autoAsynchronous = s.client.autoAsynchronous.playoutPart :=
    (Client.playoutPart_autoAsynchronous s.client).symm
  simp only [synchronousPop,hauto]
  have hframes : s.client.autoAsynchronous.playoutPart.frames =
      s.client.autoAsynchronous.frames := rfl
  rw [hframes]
  cases s.client.autoAsynchronous.frames.pop with
  | none => rfl
  | some p =>
    simp only [playout_finish]
    rfl

theorem playout_synchronousBranch (t₁ t₂ t₃ : Int64) (s : State) :
    (synchronousBranch t₁ t₂ t₃ s).playout = (synchronousBranch t₁ t₂ t₃ s.playout).playout := by
  have hadapt : s.playout.client.adaptSyncTime = s.client.adaptSyncTime.playoutPart :=
    (Client.playoutPart_adaptSyncTime s.client).symm
  have hframes : s.client.adaptSyncTime.playoutPart.frames = s.client.adaptSyncTime.frames := rfl
  have htime : s.client.adaptSyncTime.playoutPart.currentSyncTimeMs =
      s.client.adaptSyncTime.currentSyncTimeMs := rfl
  simp only [synchronousBranch,hadapt,hframes,htime]
  cases s.client.adaptSyncTime.frames.peek with
  | none => rfl
  | some head =>
    simp only
    split_ifs
    · rfl
    · exact playout_synchronousPop t₃ { s with client := s.client.adaptSyncTime }
    · exact playout_synchronousPop t₁ { s with client := s.client.adaptSyncTime }

theorem playout_afterTimedWait (t₁ t₂ : Int64) (s : State) :
    (afterTimedWait t₁ t₂ s).playout = (afterTimedWait t₁ t₂ s.playout).playout := by
  have hframes : s.playout.client.frames = s.client.frames := rfl
  have htime : s.playout.client.currentSyncTimeMs = s.client.currentSyncTimeMs := rfl
  simp only [afterTimedWait,hframes,htime]
  cases s.client.frames.peek with
  | none => rfl
  | some head =>
    simp only
    split_ifs
    · rfl
    · exact playout_synchronousPop t₂ s

theorem playout_update (t₁ t₂ t₃ : Int64) (s : State) :
    (update t₁ t₂ t₃ s).playout = (update t₁ t₂ t₃ s.playout).playout := by
  have hframes : s.playout.client.frames = s.client.frames := rfl
  have hstate : s.playout.client.currentState = s.client.currentState := rfl
  simp only [update,hframes,hstate]
  split_ifs
  · rfl
  · exact playout_asynchronousBranch s
  · exact playout_synchronousBranch t₁ t₂ t₃ s

theorem playout_eq {f : State → State} (hf : ∀ s, (f s).playout = (f s.playout).playout)
    {s u : State} (h : s.playout = u.playout) : (f s).playout = (f u).playout := by
  rw [hf s,h,← hf u]

end VideoSurveillance.Updater

namespace VideoSurveillance.Surveillance

def Event.ofUpdater : Event → Option Updater.Event
  | .update t₁ t₂ t₃ => some (.update t₁ t₂ t₃)
  | .wake t₁ t₂ t₃ => some (.wake t₁ t₂ t₃)
  | .clickSyncMode sync => some (.clickSyncMode sync)
  | .clickAuto => some .clickAuto
  | _ => none

def NotArrival (e : Updater.Event) : Bool := e.added = []

structure Isolated (filter : Int64 → Int64 → Int64) (events : List Event) (s : State)
    (es : List Updater.Event) (u : Updater.State) : Prop where
  run : (Updater.system filter).run es = some u
  playout : u.playout = s.updater.playout
  others : es.filter NotArrival = events.filterMap Event.ofUpdater
  handed : ∀ k, Handed (Updater.arrivals es) k s

theorem place_of_playout {s u : Updater.State} (h : u.playout = s.playout) : u.place = s.place := by
  have hplace : u.playout.place = s.playout.place := by rw [h]
  exact hplace

theorem client_of_playout {s u : Updater.State} (h : u.playout = s.playout) :
    u.client.playoutPart = s.client.playoutPart := by
  have hclient : u.playout.client = s.playout.client := by rw [h]
  exact hclient

theorem playout_setClient {s u : Updater.State} (h : u.playout = s.playout) {c d : Client}
    (hc : c.playoutPart = d.playoutPart) :
    ({ u with client := c } : Updater.State).playout =
      ({ s with client := d } : Updater.State).playout := by
  have hpopped : u.playout.popped = s.playout.popped := by rw [h]
  have hplace := place_of_playout h
  have hsame : u.popped = s.popped := hpopped
  simp only [Updater.State.playout,hc,hplace,hsame]

theorem isolated_silent {filter : Int64 → Int64 → Int64} {events : List Event} {s t : State}
    {e : Event} {es : List Updater.Event} {u : Updater.State} (h : Isolated filter events s es u)
    (hsilent : e.ofUpdater = none) (hplayout : t.updater.playout = s.updater.playout)
    (hhanded : ∀ k, Handed (Updater.arrivals es) k t) :
    Isolated filter (events ++ [e]) t es u := by
  refine ⟨h.run,h.playout.trans hplayout.symm,?_,hhanded⟩
  rw [h.others,List.filterMap_append]
  simp [hsilent]

theorem isolated_matched {filter : Int64 → Int64 → Int64} {events : List Event} {s t : State}
    {e : Event} {d : Updater.Event} {es : List Updater.Event} {u v : Updater.State}
    (h : Isolated filter events s es u) (hstep : Updater.step filter u d = some v)
    (hplayout : v.playout = t.updater.playout)
    (hevent : [d].filter NotArrival = [e].filterMap Event.ofUpdater)
    (hhanded : ∀ k, Handed (Updater.arrivals es ++ d.added) k t) :
    Isolated filter (events ++ [e]) t (es ++ [d]) v := by
  refine ⟨(Updater.system filter).run_snoc_some.mpr ⟨u,h.run,hstep⟩,hplayout,?_,fun k => ?_⟩
  · rw [List.filter_append,List.filterMap_append,h.others,hevent]
  · rw [Updater.arrivals_snoc]
    exact hhanded k

theorem isolated_step {filter : Int64 → Int64 → Int64} {events : List Event} {s t : State}
    {e : Event} {es : List Updater.Event} {u : Updater.State} (h : Isolated filter events s es u)
    (hlabelled : ∀ k, ∀ frame ∈ (s.feed k).receivedFrame, frame.server = k.number)
    (hs : step filter s e = some t) : ∃ es' v, Isolated filter (events ++ [e]) t es' v := by
  have hsame : ∀ d : Updater.Event, d.added = [] → ∀ k, Handed (Updater.arrivals es ++ d.added) k s := by
    intro d hd k
    rw [hd,List.append_nil]
    exact h.handed k
  have hplace := place_of_playout h.playout
  have hclient := client_of_playout h.playout
  cases e with
  | capture k frame =>
    cases hs
    exact ⟨es,u,isolated_silent h rfl rfl (fun j => handed_capture (h.handed j) k frame)⟩
  | readByte k now =>
    simp only [step] at hs
    split at hs
    · cases hs
    · next received rest hnone hpending _ =>
      cases hs
      refine ⟨es,u,isolated_silent h rfl ?_
        (fun j => handed_readByte (h.handed j) hnone now received rest)⟩
      simp only [readByte]
      split_ifs
      · exact playout_setClient rfl (Client.playoutPart_announced k s.updater.client)
      · rfl
    · cases hs
  | addFrame k =>
    simp only [step] at hs
    split at hs
    · next frame hframe =>
      cases hs
      refine ⟨_,_,isolated_matched h (d := .addFrame frame.received frame) rfl ?_ rfl
        (fun j => handed_addFrame (h.handed j) (hlabelled k frame hframe) hframe rfl)⟩
      apply playout_setClient h.playout
      rw [Client.playoutPart_addFrame,Client.playoutPart_addFrame,hclient]
    · cases hs
  | update t₁ t₂ t₃ =>
    simp only [step] at hs
    split at hs
    · next houtside =>
      cases hs
      have hstep : Updater.step filter u (.update t₁ t₂ t₃) = some (Updater.update t₁ t₂ t₃ u) := by
        simp only [Updater.step,hplace,houtside]
      exact ⟨_,_,isolated_matched h hstep
        (Updater.playout_eq (Updater.playout_update t₁ t₂ t₃) h.playout) rfl (hsame _ rfl)⟩
    · cases hs
  | wake t₁ t₂ t₃ =>
    simp only [step] at hs
    split at hs
    · next hawait =>
      cases hs
      have hstep : Updater.step filter u (.wake t₁ t₂ t₃) = some (Updater.update t₁ t₂ t₃ u) := by
        simp only [Updater.step,hplace,hawait]
      exact ⟨_,_,isolated_matched h hstep
        (Updater.playout_eq (Updater.playout_update t₁ t₂ t₃) h.playout) rfl (hsame _ rfl)⟩
    · next n htimed =>
      cases hs
      have hstep : Updater.step filter u (.wake t₁ t₂ t₃) =
          some (Updater.afterTimedWait t₁ t₂ u) := by
        simp only [Updater.step,hplace,htimed]
      exact ⟨_,_,isolated_matched h hstep
        (Updater.playout_eq (Updater.playout_afterTimedWait t₁ t₂) h.playout) rfl (hsame _ rfl)⟩
    · cases hs
  | assignMovieMode j movie =>
    cases hs
    exact ⟨es,u,isolated_silent h rfl rfl h.handed⟩
  | updateGui j =>
    cases hs
    refine ⟨es,u,isolated_silent h rfl ?_ h.handed⟩
    exact playout_setClient rfl (Client.playoutPart_notify_camera j s.updater.client)
  | clickSyncMode sync =>
    cases hs
    refine ⟨_,_,isolated_matched h (d := .clickSyncMode sync) rfl ?_ rfl (hsame _ rfl)⟩
    apply playout_setClient h.playout
    rw [Client.playoutPart_setSyncMode,Client.playoutPart_setSyncMode,hclient]
  | clickAuto =>
    cases hs
    refine ⟨_,_,isolated_matched h (d := .clickAuto) rfl ?_ rfl (hsame _ rfl)⟩
    apply playout_setClient h.playout
    rw [Client.playoutPart_clickAuto,Client.playoutPart_clickAuto,hclient]

theorem isolated_run {filter : Int64 → Int64 → Int64} {events : List Event} {s : State}
    (hrun : (system filter).run events = some s) : ∃ es u, Isolated filter events s es u := by
  induction events using List.reverseRecOn generalizing s with
  | nil =>
    cases hrun
    refine ⟨[],(Updater.system filter).init,rfl,rfl,rfl,fun k => ?_⟩
    cases k <;> rfl
  | append_singleton events e ih =>
    obtain ⟨t,ht,hstep⟩ := (system filter).run_snoc_some.mp hrun
    obtain ⟨es,u,h⟩ := ih ht
    exact isolated_step h (fun k => (delivering_run ht k).labelled) hstep

theorem playout_isolated (filter : Int64 → Int64 → Int64) (events : List Event) (s : State)
    (hrun : (system filter).run events = some s) :
    ∃ es u, (Updater.system filter).run es = some u ∧
      es.filter NotArrival = events.filterMap Event.ofUpdater ∧
      (∀ k, (FrameQueue.ofServer k.number (Updater.arrivals es)).map key <+:
        (captured k events).map capturedKey) ∧
      u.place = s.updater.place ∧ u.popped = s.updater.popped ∧
      u.client.playoutPart = s.updater.client.playoutPart := by
  obtain ⟨es,u,h⟩ := isolated_run hrun
  have hpopped : u.playout.popped = s.updater.playout.popped := by rw [h.playout]
  refine ⟨es,u,h.run,h.others,fun k => ?_,place_of_playout h.playout,hpopped,
    client_of_playout h.playout⟩
  have hhanded := h.handed k
  rw [Handed,List.map_append] at hhanded
  have hread : (FrameQueue.ofServer k.number (Updater.arrivals es)).map key <+:
      (s.feed k).reader.reads.filterMap readKey := by
    rw [← hhanded]
    exact List.prefix_append _ _
  exact hread.trans (reads_captured (delivering_run hrun k))

theorem playout_isolated_twoCaptures :
    ∃ s, (system Client.exactFilter).run (.assignMovieMode .one true :: twoCaptures) = some s ∧
      ∃ es u, (Updater.system Client.exactFilter).run es = some u ∧
        es.filter NotArrival = [.update 9 9 9,.update 9 9 9] ∧
        u.popped = s.updater.popped ∧ (shown .two s).map key = [(4,[2])] := by
  obtain ⟨es,u,hrun,hothers,-,-,hpopped,-⟩ :=
    playout_isolated Client.exactFilter (.assignMovieMode .one true :: twoCaptures) _ rfl
  exact ⟨_,rfl,es,u,hrun,hothers,hpopped,by decide⟩

end VideoSurveillance.Surveillance
