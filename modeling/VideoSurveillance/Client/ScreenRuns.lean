import VideoSurveillance.Client.Screen

namespace VideoSurveillance.Screen

inductive Switch where
  | movieMode (k : Camera)
  | syncMode
  deriving DecidableEq

def Switch.model : Switch → Observable
  | .movieMode k => .camera k
  | .syncMode => .settings

def switched (c : Client) : Switch → Bool
  | .movieMode k => (c.model k).movieModeOn
  | .syncMode => c.settings.syncModeOn

def button (s : Screen) : Switch → SwitchButton
  | .movieMode k => (s.view k).movieModeButton
  | .syncMode => s.syncModeButton

def setButton (w : Switch) (b : SwitchButton) (s : Screen) : Screen :=
  match w with
  | .movieMode k => { s with
      cameraControlView := s.cameraControlView.set k { s.view k with movieModeButton := b } }
  | .syncMode => { s with syncModeButton := b }

-- a click flips the option before its action, which first changes the model
def click (w : Switch) (on : Bool) (s : Screen) : Screen :=
  let s := s.setButton w ((s.button w).press on)
  match w with
  | .movieMode k => s.setMovieMode k on
  | .syncMode => s.setSyncMode on

def setOption (w : Switch) (on : Bool) (s : Screen) : Screen :=
  s.setButton w (if on then (s.button w).setOn else (s.button w).setOff)

def clickAuto (s : Screen) : Screen :=
  let s := { s with autoSelected := !s.autoSelected }
  let s := s.modify (fun c => { c with autoButton := !c.autoButton })
  s.setAutoMode s.client.autoButton

structure State where
  screen : Screen
  place : Updater.Place
  popped : List Updater.Popped
  closing : Option (Switch × Bool)
  deriving DecidableEq

def State.updater (s : State) : Updater.State := ⟨s.screen.client,s.place,s.popped⟩

def finish (screen : Screen) (frame : ServerFrame) (reading : Option Int64) (s : State) : State :=
  { s with
    screen := screen.showFrame frame
    place := .outside
    popped := s.popped ++ [⟨frame,reading⟩] }

def asynchronousBranch (s : State) : State :=
  match s.screen.client.frames.pop with
  | none => { s with place := .dead }
  | some (frameToShow,rest) =>
    finish (s.screen.modify (fun c => { c with frames := rest })).autoSynchronous frameToShow none s

def synchronousPop (reading : Int64) (s : State) : State :=
  let screen := s.screen.autoAsynchronous
  match screen.client.frames.pop with
  | none => { s with screen := screen, place := .dead }
  | some (frameToShow,rest) =>
    finish (screen.modify (fun c => { c with frames := rest })) frameToShow (some reading) s

def synchronousBranch (t₁ t₂ t₃ : Int64) (s : State) : State :=
  let s := { s with screen := s.screen.modify Client.adaptSyncTime }
  match s.screen.client.frames.peek with
  | none => { s with place := .dead }
  | some head =>
    let nextDispTime := head.sent + s.screen.client.currentSyncTimeMs
    if nextDispTime > t₁ then
      if nextDispTime > t₂ then { s with place := .timedWait (nextDispTime - t₂) }
      else synchronousPop t₃ s
    else synchronousPop t₁ s

def afterTimedWait (t₁ t₂ : Int64) (s : State) : State :=
  match s.screen.client.frames.peek with
  | none => { s with place := .dead }
  | some head =>
    let nextDispTime := head.sent + s.screen.client.currentSyncTimeMs
    if nextDispTime > t₁ then { s with place := .timedWait (nextDispTime - t₁) }
    else synchronousPop t₂ s

def update (t₁ t₂ t₃ : Int64) (s : State) : State :=
  if 0 = s.screen.client.frames.size then { s with place := .awaitFrame }
  else if s.screen.client.currentState = Client.ASYNCHRONOUS_MODE then asynchronousBranch s
  else synchronousBranch t₁ t₂ t₃ s

inductive Event where
  | addFrame (now : Int64) (frame : ServerFrame)
  | update (t₁ t₂ t₃ : Int64)
  | wake (t₁ t₂ t₃ : Int64)
  | changeMode (server : Int32) (mode : Mode)
  | click (w : Switch) (on : Bool)
  | setOption
  | clickAuto
  deriving DecidableEq

def step (filter : Int64 → Int64 → Int64) (s : State) : Event → Option State
  | .addFrame _ frame => some { s with screen := s.screen.addFrame filter frame }
  | .update t₁ t₂ t₃ =>
    match s.place with
    | .outside => some (update t₁ t₂ t₃ s)
    | _ => none
  | .wake t₁ t₂ t₃ =>
    match s.place with
    | .awaitFrame => some (update t₁ t₂ t₃ s)
    | .timedWait _ => some (afterTimedWait t₁ t₂ s)
    | _ => none
  | .changeMode server mode => some { s with screen := s.screen.changeMode server mode }
  | .click w on =>
    match s.closing with
    | none => some { s with screen := s.screen.click w on, closing := some (w,on) }
    | some _ => none
  | .setOption =>
    match s.closing with
    | some (w,on) => some { s with screen := s.screen.setOption w on, closing := none }
    | none => none
  | .clickAuto =>
    match s.closing with
    | none => some { s with screen := s.screen.clickAuto }
    | some _ => none

def system (filter : Int64 → Int64 → Int64) : Runs.System State Event where
  init := ⟨.start,.outside,[],none⟩
  step := step filter

def clientStep (filter : Int64 → Int64 → Int64) (u : Updater.State) : Event → Option Updater.State
  | .addFrame now frame => Updater.step filter u (.addFrame now frame)
  | .update t₁ t₂ t₃ => Updater.step filter u (.update t₁ t₂ t₃)
  | .wake t₁ t₂ t₃ => Updater.step filter u (.wake t₁ t₂ t₃)
  | .changeMode server mode => some { u with client := u.client.changeMode server mode }
  | .click (.movieMode k) on => some { u with client := u.client.setMovieMode k on }
  | .click .syncMode on => Updater.step filter u (.clickSyncMode on)
  | .setOption => some u
  | .clickAuto => Updater.step filter u .clickAuto

def clientSystem (filter : Int64 → Int64 → Int64) : Runs.System Updater.State Event where
  init := ⟨.start,.outside,[]⟩
  step := clientStep filter

def NotOvertaken (s : State) (e : Event) : Prop :=
  e = .setOption → ∀ w on, s.closing = some (w,on) → switched s.screen.client w = on

structure Follows (s t : State) (u : Updater.State) : Prop where
  updater : t.updater = u
  shows : s.screen.Shows → t.screen.Shows

theorem Follows.ite {p : Prop} [Decidable p] {s t t' : State} {u u' : Updater.State}
    (h : Follows s t u) (h' : Follows s t' u') :
    Follows s (if p then t else t') (if p then u else u') := by
  split_ifs
  · exact h
  · exact h'

theorem follows_finish {s : State} {screen : Screen} {c : Client} (hclient : screen.client = c)
    (hshows : s.screen.Shows → screen.Shows) (frame : ServerFrame) (reading : Option Int64) :
    Follows s (finish screen frame reading s) (Updater.finish c frame reading s.popped) := by
  refine ⟨?_,fun hs => (drawn_showFrame frame).shows _ (hshows hs)⟩
  rw [← hclient,Updater.finish,← (drawn_showFrame frame).client]
  rfl

theorem drawn_frames (rest : FrameBuffer) :
    Drawn (fun c => { c with frames := rest }) (modify (fun c => { c with frames := rest })) :=
  drawn_modify (fun _ => ⟨rfl,rfl,rfl⟩)

theorem drawn_adaptSyncTime : Drawn Client.adaptSyncTime (modify Client.adaptSyncTime) := by
  apply drawn_modify
  intro c
  unfold Client.adaptSyncTime
  split_ifs <;> exact ⟨rfl,rfl,rfl⟩

theorem follows_asynchronousBranch (s : State) :
    Follows s (asynchronousBranch s) (Updater.asynchronousBranch s.updater) := by
  cases hpop : s.screen.client.frames.pop with
  | none =>
    simp only [asynchronousBranch,Updater.asynchronousBranch,State.updater,hpop]
    exact ⟨rfl,id⟩
  | some popped =>
    have hdrawn := drawn_autoSynchronous.comp (drawn_frames popped.2)
    simp only [asynchronousBranch,Updater.asynchronousBranch,State.updater,hpop]
    exact follows_finish (hdrawn.client s.screen) (hdrawn.shows s.screen) popped.1 none

theorem follows_synchronousPop (reading : Int64) (s : State) :
    Follows s (synchronousPop reading s) (Updater.synchronousPop reading s.updater) := by
  have hclient := drawn_autoAsynchronous.client s.screen
  simp only [synchronousPop,Updater.synchronousPop,State.updater,hclient]
  cases hpop : s.screen.client.autoAsynchronous.frames.pop with
  | none => exact ⟨by simp only [State.updater,hclient],drawn_autoAsynchronous.shows s.screen⟩
  | some popped =>
    have hdrawn := (drawn_frames popped.2).comp drawn_autoAsynchronous
    exact follows_finish (hdrawn.client s.screen) (hdrawn.shows s.screen) popped.1 (some reading)

theorem follows_afterTimedWait (t₁ t₂ : Int64) (s : State) :
    Follows s (afterTimedWait t₁ t₂ s) (Updater.afterTimedWait t₁ t₂ s.updater) := by
  unfold afterTimedWait Updater.afterTimedWait
  cases hpeek : s.screen.client.frames.peek with
  | none =>
    rw [show s.updater.client.frames.peek = none from hpeek]
    exact ⟨rfl,id⟩
  | some head =>
    rw [show s.updater.client.frames.peek = some head from hpeek]
    exact .ite ⟨rfl,id⟩ (follows_synchronousPop t₂ s)

theorem follows_synchronousBranch (t₁ t₂ t₃ : Int64) (s : State) :
    Follows s (synchronousBranch t₁ t₂ t₃ s) (Updater.synchronousBranch t₁ t₂ t₃ s.updater) := by
  have hadapt := drawn_adaptSyncTime.shows s.screen
  have hpop : ∀ reading, Follows s
      (synchronousPop reading { s with screen := s.screen.modify Client.adaptSyncTime })
      (Updater.synchronousPop reading
        { s.updater with client := s.updater.client.adaptSyncTime }) := by
    intro reading
    have h := follows_synchronousPop reading { s with screen := s.screen.modify Client.adaptSyncTime }
    exact ⟨h.updater,fun hs => h.shows (hadapt hs)⟩
  unfold synchronousBranch Updater.synchronousBranch
  dsimp only [modify]
  cases hpeek : s.screen.client.adaptSyncTime.frames.peek with
  | none =>
    rw [show s.updater.client.adaptSyncTime.frames.peek = none from hpeek]
    exact ⟨rfl,hadapt⟩
  | some head =>
    rw [show s.updater.client.adaptSyncTime.frames.peek = some head from hpeek]
    exact .ite (.ite ⟨rfl,hadapt⟩ (hpop t₃)) (hpop t₁)

theorem follows_update (t₁ t₂ t₃ : Int64) (s : State) :
    Follows s (update t₁ t₂ t₃ s) (Updater.update t₁ t₂ t₃ s.updater) := by
  unfold update Updater.update
  exact .ite ⟨rfl,id⟩ (.ite (follows_asynchronousBranch s) (follows_synchronousBranch t₁ t₂ t₃ s))

theorem elsewhere_setButton {s : Screen} (h : s.Shows) (w : Switch) (b : SwitchButton) :
    (s.setButton w b).ShowsElsewhere w.model := by
  intro o ho
  have hs := h o
  cases w with
  | movieMode k =>
    cases o with
    | camera j =>
      have hj : j ≠ k := fun hjk => ho (by rw [hjk]; rfl)
      simp only [ShowsAt,view,setButton,PerCamera.get_set_ne _ hj] at hs ⊢
      exact hs
    | settings => exact hs
  | syncMode =>
    cases o with
    | camera j => exact hs
    | settings => exact absurd rfl ho

theorem shows_click {s : Screen} (h : s.Shows) (w : Switch) (on : Bool) : (s.click w on).Shows := by
  have hpress := elsewhere_setButton h w ((s.button w).press on)
  cases w with
  | movieMode k => exact shows_notify (hpress.setModel rfl)
  | syncMode => exact shows_notify (hpress.settings rfl)

theorem shows_clickAuto {s : Screen} (h : s.Shows) : s.clickAuto.Shows := by
  have hselect : ShowsElsewhere .settings { s with autoSelected := !s.autoSelected } := by
    intro o ho
    cases o with
    | camera k => exact h (.camera k)
    | settings => exact absurd rfl ho
  have hpress := hselect.settings (f := fun c => { c with autoButton := !c.autoButton }) rfl
  exact shows_notify (hpress.settings rfl)

theorem setOption_setActiveMode (w : Switch) (on : Bool) (s : Screen) :
    s.setOption w on = s.setButton w ((s.button w).setActiveMode on) := by cases on <;> rfl

theorem button_shows {s : Screen} (h : s.Shows) (w : Switch) :
    (s.button w).Shows (switched s.client w) := by
  cases w with
  | movieMode k => exact (h (.camera k)).button
  | syncMode => exact (h .settings).1

theorem setActiveMode_shows {b : SwitchButton} {on : Bool} (h : b.Shows on) :
    b.setActiveMode on = b := by
  rw [SwitchButton.setActiveMode,← h.2,← h.1]

theorem setButton_button (s : Screen) (w : Switch) : s.setButton w (s.button w) = s := by
  cases w with
  | movieMode k => exact congrArg (fun v => { s with cameraControlView := v }) (PerCamera.set_get _ k)
  | syncMode => rfl

theorem button_setButton (s : Screen) (w : Switch) (b : SwitchButton) :
    (s.setButton w b).button w = b := by
  cases w with
  | movieMode k => simp only [button,view,setButton,PerCamera.get_set]
  | syncMode => rfl

theorem shows_setOption_iff {s : Screen} (h : s.Shows) (w : Switch) (on : Bool) :
    (s.setOption w on).Shows ↔ switched s.client w = on := by
  rw [setOption_setActiveMode]
  constructor
  · intro hafter
    have hbutton := button_shows hafter w
    have hclient : (s.setButton w ((s.button w).setActiveMode on)).client = s.client := by
      cases w <;> rfl
    rw [button_setButton,hclient] at hbutton
    exact hbutton.1.symm
  · rintro rfl
    rw [setActiveMode_shows (button_shows h w),setButton_button]
    exact h

theorem shows_step {filter : Int64 → Int64 → Int64} {s t : State} {e : Event}
    (h : s.screen.Shows) (hok : NotOvertaken s e) (hs : step filter s e = some t) :
    t.screen.Shows := by
  cases e with
  | addFrame now frame =>
    cases hs
    exact (drawn_addFrame filter frame).shows _ h
  | update t₁ t₂ t₃ =>
    simp only [step] at hs
    split at hs <;> cases hs
    exact (follows_update t₁ t₂ t₃ s).shows h
  | wake t₁ t₂ t₃ =>
    simp only [step] at hs
    split at hs <;> cases hs
    · exact (follows_update t₁ t₂ t₃ s).shows h
    · exact (follows_afterTimedWait t₁ t₂ s).shows h
  | changeMode server mode =>
    cases hs
    exact (drawn_changeMode server mode).shows _ h
  | click w on =>
    simp only [step] at hs
    split at hs <;> cases hs
    exact shows_click h w on
  | setOption =>
    simp only [step] at hs
    split at hs
    · next w on hclosing =>
      cases hs
      exact (shows_setOption_iff h w on).mpr (hok rfl w on hclosing)
    · cases hs
  | clickAuto =>
    simp only [step] at hs
    split at hs <;> cases hs
    exact shows_clickAuto h

theorem overtaken_step {filter : Int64 → Int64 → Int64} {s t : State} {e : Event}
    (h : s.screen.Shows) (hok : ¬ NotOvertaken s e) (hs : step filter s e = some t) :
    ¬ t.screen.Shows := by
  simp only [NotOvertaken,Classical.not_imp,not_forall] at hok
  obtain ⟨rfl,w,on,hclosing,hswitched⟩ := hok
  simp only [step,hclosing,Option.some.injEq] at hs
  obtain rfl := hs
  exact mt (shows_setOption_iff h w on).mp hswitched

theorem client_step {filter : Int64 → Int64 → Int64} {s t : State} {e : Event}
    (hs : step filter s e = some t) : clientStep filter s.updater e = some t.updater := by
  cases e with
  | addFrame now frame =>
    cases hs
    exact congrArg (fun c => some { s.updater with client := c })
      ((drawn_addFrame filter frame).client s.screen).symm
  | update t₁ t₂ t₃ =>
    simp only [step] at hs
    split at hs
    · next hplace =>
      cases hs
      rw [clientStep,Updater.step,show s.updater.place = .outside from hplace]
      exact congrArg some (follows_update t₁ t₂ t₃ s).updater.symm
    · cases hs
  | wake t₁ t₂ t₃ =>
    simp only [step] at hs
    split at hs
    · next hplace =>
      cases hs
      rw [clientStep,Updater.step,show s.updater.place = .awaitFrame from hplace]
      exact congrArg some (follows_update t₁ t₂ t₃ s).updater.symm
    · next timeout hplace =>
      cases hs
      rw [clientStep,Updater.step,show s.updater.place = .timedWait timeout from hplace]
      exact congrArg some (follows_afterTimedWait t₁ t₂ s).updater.symm
    · cases hs
  | changeMode server mode =>
    cases hs
    exact congrArg (fun c => some { s.updater with client := c })
      ((drawn_changeMode server mode).client s.screen).symm
  | click w on =>
    simp only [step] at hs
    split at hs <;> cases hs
    cases w with
    | movieMode k =>
      exact congrArg (fun c => some { s.updater with client := c })
        ((drawn_setMovieMode k on).client (s.screen.setButton (.movieMode k) _)).symm
    | syncMode =>
      exact congrArg (fun c => some { s.updater with client := c })
        ((drawn_setSyncMode on).client (s.screen.setButton .syncMode _)).symm
  | setOption =>
    simp only [step] at hs
    split at hs
    · next w on _ =>
      cases hs
      have hclient : (s.screen.setOption w on).client = s.screen.client := by cases w <;> rfl
      exact congrArg (fun c => some { s.updater with client := c }) hclient.symm
    · cases hs
  | clickAuto =>
    simp only [step] at hs
    split at hs <;> cases hs
    exact congrArg (fun c => some { s.updater with client := c })
      ((drawn_setAutoMode _).client { s.screen with
        autoSelected := !s.screen.autoSelected
        client := { s.screen.client with autoButton := !s.screen.client.autoButton } }).symm

theorem client_run {filter : Int64 → Int64 → Int64} {events : List Event} {s : State}
    (hrun : (system filter).run events = some s) :
    (clientSystem filter).run events = some s.updater := by
  induction events using List.reverseRecOn generalizing s with
  | nil =>
    cases hrun
    rfl
  | append_singleton events e ih =>
    obtain ⟨r,hr,hs⟩ := (system filter).run_snoc_some.mp hrun
    exact (clientSystem filter).run_snoc_some.mpr ⟨r.updater,ih hr,client_step hs⟩

theorem shows_start : Screen.start.Shows := by
  intro o
  cases o with
  | camera k => cases k <;> exact ⟨rfl,rfl,rfl,rfl,rfl⟩
  | settings => exact ⟨⟨rfl,rfl⟩,rfl,rfl⟩

theorem screen_shows_model_iff (filter : Int64 → Int64 → Int64) (events : List Event) (s : State)
    (hrun : (system filter).run events = some s) :
    (clientSystem filter).run events = some s.updater ∧
    ((system filter).Always (fun t => t.screen.Shows) events ↔
      (system filter).Meets NotOvertaken events) :=
  ⟨client_run hrun,(system filter).always_iff_meets shows_start (fun _ _ _ => shows_step)
    (fun _ h => h) (fun _ _ _ => overtaken_step) hrun⟩

def motionDuringClick : List Event :=
  [.click (.movieMode .one) true,.setOption,.click (.movieMode .one) false,.changeMode 1 .movie,
    .setOption]

theorem screen_shows_model_iff_motionDuringClick :
    ∃ s, (system Client.exactFilter).run motionDuringClick = some s ∧
      (s.screen.client.model .one).movieModeOn = true ∧
      (s.screen.button (.movieMode .one)).onOption = false ∧
      ((system Client.exactFilter).Always (fun t => t.screen.Shows) motionDuringClick ↔
        (system Client.exactFilter).Meets NotOvertaken motionDuringClick) :=
  ⟨_,rfl,rfl,rfl,(screen_shows_model_iff Client.exactFilter motionDuringClick _ rfl).2⟩

end VideoSurveillance.Screen
