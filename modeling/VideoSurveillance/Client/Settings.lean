import VideoSurveillance.Client.Update

namespace VideoSurveillance.Client

structure SettingsAgree (c : Client) : Prop where
  autoButton : c.autoButton = c.settings.autoActivated
  syncAuto : c.syncAuto = c.settings.autoActivated
  currentState : c.settings.syncModeOn = c.currentState

structure SameSettings (c d : Client) : Prop where
  settings : d.settings = c.settings
  autoButton : d.autoButton = c.autoButton
  syncAuto : d.syncAuto = c.syncAuto
  currentState : d.currentState = c.currentState

theorem SameSettings.refl (c : Client) : SameSettings c c := ⟨rfl,rfl,rfl,rfl⟩

theorem SameSettings.trans {c d e : Client} (h : SameSettings c d) (k : SameSettings d e) :
    SameSettings c e :=
  ⟨k.settings.trans h.settings,k.autoButton.trans h.autoButton,k.syncAuto.trans h.syncAuto,
    k.currentState.trans h.currentState⟩

theorem SettingsAgree.of_same {c d : Client} (h : c.SettingsAgree) (k : SameSettings c d) :
    d.SettingsAgree where
  autoButton := by rw [k.autoButton,k.settings,h.autoButton]
  syncAuto := by rw [k.syncAuto,k.settings,h.syncAuto]
  currentState := by rw [k.settings,k.currentState,h.currentState]

theorem sameSettings_notify_camera (k : Camera) (c : Client) :
    SameSettings c (notify (.camera k) c) := by
  rcases notify_camera_cases k c with ⟨-,hn⟩ | ⟨-,-,hn⟩ | ⟨-,-,hn⟩
  · rw [hn]
    exact ⟨rfl,rfl,rfl,rfl⟩
  · rw [hn]
    exact .refl c
  · rw [hn]
    exact ⟨rfl,rfl,rfl,rfl⟩

theorem sameSettings_setNewImage (k : Camera) (image : List UInt8) (c : Client) :
    SameSettings c (c.setNewImage k image) := by
  have h : SameSettings c (c.assignImage k image) := ⟨rfl,rfl,rfl,rfl⟩
  exact h.trans (sameSettings_notify_camera k _)

theorem sameSettings_setDelayTime (k : Camera) (time : Int32) (c : Client) :
    SameSettings c (c.setDelayTime k time) := by
  have h : SameSettings c (c.assignDelayTime k time) := ⟨rfl,rfl,rfl,rfl⟩
  exact h.trans (sameSettings_notify_camera k _)

theorem sameSettings_showFrame (frame : ServerFrame) (c : Client) :
    SameSettings c (c.showFrame frame) := by
  unfold showFrame
  split
  · exact (sameSettings_setNewImage _ _ c).trans (sameSettings_setDelayTime _ _ _)
  · exact .refl c

theorem sameSettings_addFrame (filter : Int64 → Int64 → Int64) (frame : ServerFrame) (c : Client) :
    SameSettings c (c.addFrame filter frame) := by
  unfold addFrame
  cases Camera.ofNumber frame.server <;> exact ⟨rfl,rfl,rfl,rfl⟩

theorem sameSettings_adaptSyncTime (c : Client) : SameSettings c c.adaptSyncTime := by
  unfold adaptSyncTime
  split_ifs <;> exact ⟨rfl,rfl,rfl,rfl⟩

structure AutoKept (c d : Client) : Prop where
  agree : c.SettingsAgree → d.SettingsAgree
  autoActivated : d.settings.autoActivated = c.settings.autoActivated

theorem AutoKept.trans {c d e : Client} (h : AutoKept c d) (k : AutoKept d e) : AutoKept c e :=
  ⟨fun hc => k.agree (h.agree hc),k.autoActivated.trans h.autoActivated⟩

theorem SameSettings.autoKept {c d : Client} (h : SameSettings c d) : AutoKept c d :=
  ⟨fun hc => hc.of_same h,by rw [h.settings]⟩

theorem autoKept_switch (c : Client) (sync : Bool) :
    AutoKept c ({ c with currentState := sync }.setSyncMode sync) := by
  rw [setSyncMode,notify_settings_agrees rfl]
  exact ⟨fun _ => ⟨rfl,rfl,rfl⟩,rfl⟩

theorem autoKept_autoSynchronous (c : Client) : AutoKept c c.autoSynchronous := by
  unfold autoSynchronous
  split_ifs
  · exact autoKept_switch c SYNCHRONOUS_MODE
  · exact (SameSettings.refl c).autoKept

theorem autoKept_autoAsynchronous (c : Client) : AutoKept c c.autoAsynchronous := by
  unfold autoAsynchronous
  split_ifs
  · exact autoKept_switch c ASYNCHRONOUS_MODE
  · exact (SameSettings.refl c).autoKept

theorem setSyncMode_same (c : Client) : (c.setSyncMode c.currentState).SettingsAgree := by
  rw [setSyncMode,notify_settings_agrees rfl]
  exact ⟨rfl,rfl,rfl⟩

theorem setSyncMode_changed {c : Client} (h : c.SettingsAgree) {sync : Bool}
    (hsync : sync ≠ c.currentState) :
    (c.setSyncMode sync).SettingsAgree ∧
      (c.setSyncMode sync).settings.autoActivated = false := by
  rw [setSyncMode,notify_settings_differs hsync]
  refine ⟨⟨rfl,?_,rfl⟩,rfl⟩
  change (if c.settings.autoActivated then false else c.syncAuto) = false
  rw [h.syncAuto]
  cases c.settings.autoActivated <;> rfl

theorem settingsAgree_setSyncMode {c : Client} (h : c.SettingsAgree) (sync : Bool) :
    (c.setSyncMode sync).SettingsAgree := by
  rcases eq_or_ne sync c.currentState with rfl | hsync
  · exact setSyncMode_same c
  · exact (setSyncMode_changed h hsync).1

theorem settingsAgree_clickAuto {c : Client} (h : c.SettingsAgree) : c.clickAuto.SettingsAgree := by
  have hn := notify_settings_agrees
    (c := { c with autoButton := !c.autoButton }.assignAutoMode !c.autoButton) h.currentState
  change (notify .settings _).SettingsAgree
  rw [hn]
  exact ⟨rfl,rfl,h.currentState⟩

theorem settingsAgree_start : start.SettingsAgree := ⟨rfl,rfl,rfl⟩

end VideoSurveillance.Client

namespace VideoSurveillance.Updater

theorem kept_autoKept : Kept Client.AutoKept where
  refl c := (Client.SameSettings.refl c).autoKept
  trans := Client.AutoKept.trans
  frames _ _ := Client.SameSettings.autoKept ⟨rfl,rfl,rfl,rfl⟩
  adaptSyncTime c := (Client.sameSettings_adaptSyncTime c).autoKept
  autoSynchronous := Client.autoKept_autoSynchronous
  autoAsynchronous := Client.autoKept_autoAsynchronous
  showFrame frame c := (Client.sameSettings_showFrame frame c).autoKept

theorem autoKept_step {filter : Int64 → Int64 → Int64} {s t : State} {e : Event}
    (he : ¬ Clicked e) (h : step filter s e = some t) : Client.AutoKept s.client t.client :=
  kept_autoKept.step he (fun _ frame _ => (Client.sameSettings_addFrame filter frame _).autoKept) h

theorem settingsAgree_step {filter : Int64 → Int64 → Int64} {s t : State} {e : Event}
    (hs : s.client.SettingsAgree) (h : step filter s e = some t) : t.client.SettingsAgree := by
  by_cases he : Clicked e
  · cases he with
    | sync sync =>
      cases h
      exact Client.settingsAgree_setSyncMode hs sync
    | auto =>
      cases h
      exact Client.settingsAgree_clickAuto hs
  · exact (autoKept_step he h).agree hs

theorem settingsAgree_run {filter : Int64 → Int64 → Int64} {events : List Event} {s : State}
    (hrun : (system filter).run events = some s) : s.client.SettingsAgree :=
  (system filter).invariant (I := fun s => s.client.SettingsAgree) Client.settingsAgree_start
    (fun _ _ _ => settingsAgree_step) hrun

theorem settings_stay_consistent (filter : Int64 → Int64 → Int64) (events : List Event) (s : State)
    (hrun : (system filter).run events = some s) :
    (∀ o c n, 1 < n → Client.observers.dispatch n o c = some (Client.notify o c)) ∧
    (s.client.autoButton = s.client.settings.autoActivated ∧
      s.client.settings.autoActivated = s.client.syncAuto ∧
      s.client.settings.syncModeOn = s.client.currentState) ∧
    (∀ e t, ¬ Clicked e → (system filter).step s e = some t →
      t.client.settings.autoActivated = s.client.settings.autoActivated) ∧
    ∀ sync t, sync ≠ s.client.currentState →
      (system filter).step s (.clickSyncMode sync) = some t →
      t.client.currentState = sync ∧ t.client.settings.autoActivated = false := by
  have hagree := settingsAgree_run hrun
  refine ⟨Client.notify_ends,⟨hagree.autoButton,hagree.syncAuto.symm,hagree.currentState⟩,
    fun e t he ht => (autoKept_step he ht).autoActivated,?_⟩
  rintro sync t hsync ⟨⟩
  refine ⟨?_,(Client.setSyncMode_changed hagree hsync).2⟩
  rw [Client.setSyncMode,Client.notify_settings_differs hsync]
  rfl

def autoSwitch : List Event := [.clickAuto,.addFrame 100 ⟨[7],0,100,1⟩,.update 100 100 100]

theorem settings_stay_consistent_autoSwitch :
    ∃ s, (system Client.exactFilter).run autoSwitch = some s ∧
      s.client.currentState = Client.SYNCHRONOUS_MODE ∧
      s.client.settings.autoActivated = s.client.syncAuto ∧ s.client.syncAuto = true ∧
      ∀ t, (system Client.exactFilter).step s (.clickSyncMode false) = some t →
        t.client.currentState = false ∧ t.client.settings.autoActivated = false := by
  refine ⟨_,rfl,by decide,?_,by decide,?_⟩
  · exact (settings_stay_consistent Client.exactFilter autoSwitch _ rfl).2.1.2.1
  · intro t ht
    exact (settings_stay_consistent Client.exactFilter autoSwitch _ rfl).2.2.2 false t (by decide) ht

end VideoSurveillance.Updater
