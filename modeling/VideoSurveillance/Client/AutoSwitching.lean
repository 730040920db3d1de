import Mathlib.Algebra.Group.Int.Defs
import Mathlib.Algebra.Order.Group.Int
import Mathlib.Algebra.Order.Group.Unbundled.Int
import Mathlib.Data.List.Chain
import VideoSurveillance.Client.Settings
import VideoSurveillance.Library.Transitions

namespace VideoSurveillance.Client

def gap (c : Client) : ℤ := c.averageGap.toInt

theorem gap_exact {c : Client}
    (h : |c.movingAverageServer.one.toInt - c.movingAverageServer.two.toInt| < 2 ^ 63) :
    c.gap = |c.movingAverageServer.one.toInt - c.movingAverageServer.two.toInt| := by
  obtain ⟨hlow,hhigh⟩ := abs_lt.mp h
  have hdiff : (c.movingAverageServer.one - c.movingAverageServer.two).toInt =
      c.movingAverageServer.one.toInt - c.movingAverageServer.two.toInt := by
    rw [Int64.toInt_sub]
    exact Int.bmod_eq_of_le (by omega) (by omega)
  have hmin : (c.movingAverageServer.one - c.movingAverageServer.two).toBitVec ≠
      BitVec.intMin 64 := by
    intro hmin
    rw [Int64.toInt,hmin] at hdiff
    have hleast : (BitVec.intMin 64).toInt = -2 ^ 63 := by decide
    omega
  rw [← hdiff,gap,averageGap,Int.abs_eq_natAbs]
  exact BitVec.toInt_abs_eq_natAbs_of_ne_intMin hmin

def CloseTogether (c : Client) : Prop :=
  c.syncAuto ∧ c.averageGap < SYNC_TIME_MS - SYNC_TIME_HYSTERESIS_MS

def FarApart (c : Client) : Prop :=
  c.syncAuto ∧ c.averageGap > SYNC_TIME_MS + SYNC_TIME_HYSTERESIS_MS

instance (c : Client) : Decidable c.CloseTogether := inferInstanceAs (Decidable (_ ∧ _))

instance (c : Client) : Decidable c.FarApart := inferInstanceAs (Decidable (_ ∧ _))

theorem closeTogether_gap {c : Client} (h : c.CloseTogether) : c.gap < 450 :=
  Int64.lt_iff_toInt_lt.mp h.2

theorem farApart_gap {c : Client} (h : c.FarApart) : 550 < c.gap :=
  Int64.lt_iff_toInt_lt.mp h.2

theorem currentState_switch (c : Client) (sync : Bool) :
    ({ c with currentState := sync }.setSyncMode sync).currentState = sync := by
  rw [setSyncMode,notify_settings_agrees rfl]
  rfl

theorem autoSynchronous_currentState (c : Client) : c.autoSynchronous.currentState =
    if c.CloseTogether then SYNCHRONOUS_MODE else c.currentState := by
  unfold autoSynchronous
  split_ifs with h k k
  · exact currentState_switch c SYNCHRONOUS_MODE
  · exact absurd h k
  · exact absurd k h
  · rfl

theorem autoAsynchronous_currentState (c : Client) : c.autoAsynchronous.currentState =
    if c.FarApart then ASYNCHRONOUS_MODE else c.currentState := by
  unfold autoAsynchronous
  split_ifs with h k k
  · exact currentState_switch c ASYNCHRONOUS_MODE
  · exact absurd h k
  · exact absurd k h
  · rfl

end VideoSurveillance.Client

namespace VideoSurveillance.Updater

def switchMade (s t : State) : Option Bool :=
  match t.popped.drop s.popped.length with
  | [⟨_,none⟩] => if s.client.CloseTogether then some Client.SYNCHRONOUS_MODE else none
  | [⟨_,some _⟩] => if s.client.FarApart then some Client.ASYNCHRONOUS_MODE else none
  | _ => none

inductive Switching (s t : State) : Prop
  | kept : t.popped = s.popped → t.client.currentState = s.client.currentState →
      (∀ n, t.place = .timedWait n →
        s.client.currentState = Client.SYNCHRONOUS_MODE ∨ ∃ m, s.place = .timedWait m) →
      Switching s t
  | asynchronous {frame : ServerFrame} : t.popped = s.popped ++ [⟨frame,none⟩] →
      s.client.currentState = Client.ASYNCHRONOUS_MODE → t.place = .outside →
      t.client.currentState =
        (if s.client.CloseTogether then Client.SYNCHRONOUS_MODE else s.client.currentState) →
      Switching s t
  | synchronous {frame : ServerFrame} {reading : Int64} :
      t.popped = s.popped ++ [⟨frame,some reading⟩] →
      (s.client.currentState = Client.SYNCHRONOUS_MODE ∨ ∃ m, s.place = .timedWait m) →
      t.place = .outside →
      t.client.currentState =
        (if s.client.FarApart then Client.ASYNCHRONOUS_MODE else s.client.currentState) →
      Switching s t

theorem switching_asynchronousBranch {s : State} (h : s.client.frames.size ≠ 0)
    (hasync : s.client.currentState = Client.ASYNCHRONOUS_MODE) :
    Switching s (asynchronousBranch s) := by
  obtain ⟨frame,rest,hpop⟩ := FrameBuffer.pop_of_size h
  rw [asynchronousBranch,hpop]
  refine .asynchronous rfl hasync rfl ?_
  change ({ s.client with frames := rest }.autoSynchronous.showFrame frame).currentState = _
  rw [(Client.sameSettings_showFrame frame _).currentState,Client.autoSynchronous_currentState]
  rfl

theorem switching_synchronousPop {s u : State} (reading : Int64) (h : u.client.frames.size ≠ 0)
    (hpopped : u.popped = s.popped) (hstate : u.client.currentState = s.client.currentState)
    (hfar : u.client.FarApart ↔ s.client.FarApart)
    (hsync : s.client.currentState = Client.SYNCHRONOUS_MODE ∨ ∃ m, s.place = .timedWait m) :
    Switching s (synchronousPop reading u) := by
  obtain ⟨frame,rest,hpop⟩ := FrameBuffer.pop_of_size h
  rw [← (Client.samePlayout_autoAsynchronous u.client).frames] at hpop
  rw [synchronousPop,hpop]
  refine .synchronous (by rw [← hpopped]; rfl) hsync rfl ?_
  change ({ u.client.autoAsynchronous with frames := rest }.showFrame frame).currentState = _
  rw [(Client.sameSettings_showFrame frame _).currentState]
  change u.client.autoAsynchronous.currentState = _
  rw [Client.autoAsynchronous_currentState,hstate]
  exact if_congr hfar rfl rfl

theorem farApart_adaptSyncTime (c : Client) : c.adaptSyncTime.FarApart ↔ c.FarApart := by
  unfold Client.adaptSyncTime
  split_ifs <;> rfl

theorem switching_synchronousBranch (t₁ t₂ t₃ : Int64) {s : State}
    (h : s.client.frames.size ≠ 0) (hsync : s.client.currentState = Client.SYNCHRONOUS_MODE) :
    Switching s (synchronousBranch t₁ t₂ t₃ s) := by
  have hadapt := Client.sameSettings_adaptSyncTime s.client
  have hsize : s.client.adaptSyncTime.frames.size ≠ 0 := by rwa [s.client.adaptSyncTime_frames]
  obtain ⟨head,rest,hpop⟩ := FrameBuffer.pop_of_size hsize
  have hpeek := FrameBuffer.peek_of_pop hpop
  have hnow : ∀ reading, Switching s
      (synchronousPop reading { s with client := s.client.adaptSyncTime }) := fun reading =>
    switching_synchronousPop reading hsize rfl hadapt.currentState (farApart_adaptSyncTime _)
      (.inl hsync)
  simp only [synchronousBranch,hpeek]
  split_ifs
  · exact .kept rfl hadapt.currentState (fun _ _ => .inl hsync)
  · exact hnow t₃
  · exact hnow t₁

theorem switching_afterTimedWait (t₁ t₂ : Int64) {s : State} {m : Int64}
    (hplace : s.place = .timedWait m) : Switching s (afterTimedWait t₁ t₂ s) := by
  cases hpeek : s.client.frames.peek with
  | none =>
    simp only [afterTimedWait,hpeek]
    exact .kept rfl rfl (fun n hn => by cases hn)
  | some head =>
    have hsize : s.client.frames.size ≠ 0 := by
      intro hsize
      rw [FrameBuffer.peek_eq_none.mpr hsize] at hpeek
      cases hpeek
    simp only [afterTimedWait,hpeek]
    split_ifs
    · exact .kept rfl rfl (fun _ _ => .inr ⟨m,hplace⟩)
    · exact switching_synchronousPop t₂ hsize rfl rfl Iff.rfl (.inr ⟨m,hplace⟩)

theorem switching_update (t₁ t₂ t₃ : Int64) (s : State) : Switching s (update t₁ t₂ t₃ s) := by
  unfold update
  split_ifs with hempty hasync
  · exact .kept rfl rfl (fun n hn => by cases hn)
  · exact switching_asynchronousBranch (Ne.symm hempty) hasync
  · exact switching_synchronousBranch t₁ t₂ t₃ (Ne.symm hempty) (Bool.eq_true_of_not_eq_false hasync)

theorem switching_step {filter : Int64 → Int64 → Int64} {s t : State} {e : Event}
    (he : ¬ Clicked e) (h : step filter s e = some t) : Switching s t := by
  cases stepped h with
  | addFrame now frame =>
    exact .kept rfl (Client.sameSettings_addFrame filter frame _).currentState
      (fun n hn => .inr ⟨n,hn⟩)
  | update t₁ t₂ t₃ => exact switching_update t₁ t₂ t₃ s
  | resumed t₁ t₂ t₃ => exact switching_update t₁ t₂ t₃ s
  | woken t₁ t₂ t₃ hplace => exact switching_afterTimedWait t₁ t₂ hplace
  | clickSyncMode sync => exact absurd (.sync sync) he
  | clickAuto => exact absurd .auto he

structure AfterSwitch (x : Bool × ℤ) (s : State) : Prop where
  currentState : s.client.currentState = x.1
  waiting : ∀ n, s.place = .timedWait n → s.client.currentState = Client.SYNCHRONOUS_MODE
  together : x.1 = Client.SYNCHRONOUS_MODE → x.2 < 450
  apart : x.1 = Client.ASYNCHRONOUS_MODE → 550 < x.2

theorem not_waiting {s : State} {n : Int64} (hplace : s.place = .outside) :
    s.place ≠ .timedWait n := by
  rw [hplace]
  exact Place.noConfusion

inductive Switched (s t : State) : Option Bool → Prop
  | no : t.client.currentState = s.client.currentState →
      (∀ n, t.place = .timedWait n →
        s.client.currentState = Client.SYNCHRONOUS_MODE ∨ ∃ m, s.place = .timedWait m) →
      Switched s t none
  | on : s.client.currentState = Client.ASYNCHRONOUS_MODE →
      t.client.currentState = Client.SYNCHRONOUS_MODE → t.place = .outside → s.client.gap < 450 →
      Switched s t (some Client.SYNCHRONOUS_MODE)
  | off : (s.client.currentState = Client.SYNCHRONOUS_MODE ∨ ∃ m, s.place = .timedWait m) →
      t.client.currentState = Client.ASYNCHRONOUS_MODE → t.place = .outside → 550 < s.client.gap →
      Switched s t (some Client.ASYNCHRONOUS_MODE)

theorem switched {filter : Int64 → Int64 → Int64} {s t : State} {e : Event} (he : ¬ Clicked e)
    (h : step filter s e = some t) : Switched s t (switchMade s t) := by
  cases switching_step he h with
  | kept hpopped hstate hwait =>
    have hmade : switchMade s t = none := by simp only [switchMade,hpopped,List.drop_length]
    rw [hmade]
    exact .no hstate hwait
  | asynchronous hpopped hasync hplace hstate =>
    simp only [switchMade,hpopped,List.drop_left]
    split_ifs at hstate ⊢ with hclose
    · exact .on hasync hstate hplace (Client.closeTogether_gap hclose)
    · exact .no hstate (fun n hn => absurd hn (not_waiting hplace))
  | synchronous hpopped hsync hplace hstate =>
    simp only [switchMade,hpopped,List.drop_left]
    split_ifs at hstate ⊢ with hfar
    · exact .off hsync hstate hplace (Client.farApart_gap hfar)
    · exact .no hstate (fun n hn => absurd hn (not_waiting hplace))

theorem afterSwitch_switched {s t : State} {d : Bool} (h : Switched s t (some d)) :
    AfterSwitch (d,s.client.gap) t := by
  cases h with
  | on hasync hstate hplace hgap =>
    exact ⟨hstate,fun n hn => absurd hn (not_waiting hplace),fun _ => hgap,Bool.noConfusion⟩
  | off hsync hstate hplace hgap =>
    exact ⟨hstate,fun n hn => absurd hn (not_waiting hplace),Bool.noConfusion,fun _ => hgap⟩

theorem afterSwitch_kept {x : Bool × ℤ} {s t : State} (hx : AfterSwitch x s)
    (h : Switched s t none) : AfterSwitch x t := by
  cases h with
  | no hstate hwait =>
    refine ⟨hstate.trans hx.currentState,fun n hn => ?_,hx.together,hx.apart⟩
    rw [hstate]
    rcases hwait n hn with hsync | ⟨m,hm⟩
    · exact hsync
    · exact hx.waiting m hm

def Opposite (x y : Bool × ℤ) : Prop := y.1 = !x.1 ∧ 100 < |y.2 - x.2|

theorem opposite_switched {x : Bool × ℤ} {s t : State} {d : Bool} (hx : AfterSwitch x s)
    (h : Switched s t (some d)) : Opposite x (d,s.client.gap) := by
  obtain ⟨last,before⟩ := x
  cases h with
  | on hasync hstate hplace hgap =>
    obtain rfl : Client.ASYNCHRONOUS_MODE = last := hasync.symm.trans hx.currentState
    have hapart : 550 < before := hx.apart rfl
    refine ⟨rfl,lt_abs.mpr (.inr ?_)⟩
    simp only
    omega
  | off hsync hstate hplace hgap =>
    have hstayed : s.client.currentState = Client.SYNCHRONOUS_MODE := by
      rcases hsync with hsync | ⟨m,hm⟩
      · exact hsync
      · exact hx.waiting m hm
    obtain rfl : Client.SYNCHRONOUS_MODE = last := hstayed.symm.trans hx.currentState
    have htogether : before < 450 := hx.together rfl
    refine ⟨rfl,lt_abs.mpr (.inl ?_)⟩
    simp only
    omega

def switches (filter : Int64 → Int64 → Int64) (s : State) (events : List Event) :
    List (Bool × ℤ) :=
  (system filter).marks switchMade (fun s => s.client.gap) s events

def gapVariation (filter : Int64 → Int64 → Int64) (s : State) (events : List Event) : ℤ :=
  (system filter).variation (fun s => s.client.gap) s events

theorem switches_opposite (filter : Int64 → Int64 → Int64) (s : State) {events : List Event}
    (hclicks : ∀ e ∈ events, ¬ Clicked e) : (switches filter s events).IsChain Opposite := by
  refine (system filter).marks_isChain (I := AfterSwitch) ?_ ?_ ?_ hclicks s
  · intro s e t d he h hd
    exact afterSwitch_switched (hd ▸ switched he h)
  · intro x s e t he hx h hd
    exact afterSwitch_kept hx (hd ▸ switched he h)
  · intro x s e t d he hx h hd
    exact opposite_switched hx (hd ▸ switched he h)

theorem switches_le_variation (filter : Int64 → Int64 → Int64) (s : State) {events : List Event}
    (hclicks : ∀ e ∈ events, ¬ Clicked e) :
    ((switches filter s events).length : ℤ) ≤ 1 + gapVariation filter s events / 100 := by
  have hfar : ((switches filter s events).map Prod.snd).IsChain (fun v w => 100 ≤ |w - v|) :=
    List.isChain_map_of_isChain Prod.snd (fun _ _ h => h.2.le) (switches_opposite filter s hclicks)
  have hbound := (system filter).marks_le_variation (by decide) s events hfar
  rw [Int.nsmul_eq_mul] at hbound
  change ((switches filter s events).length : ℤ) * 100 ≤ 100 + gapVariation filter s events at hbound
  omega

theorem auto_switching_does_not_flap (filter : Int64 → Int64 → Int64) (s : State)
    (events : List Event) (hclicks : ∀ e ∈ events, ¬ Clicked e) :
    (switches filter s events).IsChain Opposite ∧
    ((switches filter s events).length : ℤ) ≤ 1 + gapVariation filter s events / 100 ∧
    (∀ x ∈ (system filter).transitions s events,
      x.target.client.currentState =
        (switchMade x.source x.target).getD x.source.client.currentState ∧
      (450 ≤ x.source.client.gap → x.source.client.gap ≤ 550 →
        switchMade x.source x.target = none)) ∧
    ∀ c : Client, |c.movingAverageServer.one.toInt - c.movingAverageServer.two.toInt| < 2 ^ 63 →
      c.gap = |c.movingAverageServer.one.toInt - c.movingAverageServer.two.toInt| := by
  refine ⟨switches_opposite filter s hclicks,switches_le_variation filter s hclicks,?_,
    fun c => Client.gap_exact⟩
  refine (system filter).forall_transitions (I := fun _ => True) ?_ (fun _ _ _ _ _ _ => trivial)
    hclicks trivial
  intro s e t _ he h
  have hswitched : Switched s t (switchMade s t) := switched he h
  revert hswitched
  generalize switchMade s t = made
  intro hswitched
  cases hswitched with
  | no hstate hwait => exact ⟨hstate,fun _ _ => rfl⟩
  | on hasync hstate hplace hgap => exact ⟨hstate,fun hlow _ => absurd hgap (not_lt.mpr hlow)⟩
  | off hsync hstate hplace hgap => exact ⟨hstate,fun _ hhigh => absurd hgap (not_lt.mpr hhigh)⟩

def gapOpens : List Event :=
  [.addFrame 100 ⟨[7],0,100,1⟩,.update 100 100 100,.addFrame 6000 ⟨[8],1000,6000,1⟩,
    .update 6000 6000 6000]

theorem auto_switching_does_not_flap_gapOpens :
    ∃ s, (system Client.exactFilter).run [.clickAuto] = some s ∧ s.client.syncAuto = true ∧
      switches Client.exactFilter s gapOpens = [(true,20),(false,1016)] ∧
      gapVariation Client.exactFilter s gapOpens = 1016 ∧
      (switches Client.exactFilter s gapOpens).IsChain Opposite ∧
      ((switches Client.exactFilter s gapOpens).length : ℤ) ≤
        1 + gapVariation Client.exactFilter s gapOpens / 100 := by
  have hclicks : ∀ e ∈ gapOpens, ¬ Clicked e := by
    intro e he hclicked
    cases hclicked <;> simp [gapOpens] at he
  refine ⟨_,rfl,by decide,by decide,by decide,?_⟩
  obtain ⟨hopposite,hcount,-⟩ := auto_switching_does_not_flap Client.exactFilter _ gapOpens hclicks
  exact ⟨hopposite,hcount⟩

end VideoSurveillance.Updater
