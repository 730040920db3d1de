import VideoSurveillance.Client.Playout
import VideoSurveillance.Library.TruncatedMean

namespace VideoSurveillance.Client

def average (c : Client) (k : Camera) : ℤ := (c.movingAverageServer.get k).toInt

def syncTime (c : Client) : ℤ := c.currentSyncTimeMs.toInt

def escalate (average syncTime : ℤ) : ℤ :=
  if 2 * syncTime < average then 4 * syncTime else syncTime

def longestSyncTime : ℤ := 500 * 4 ^ 26

theorem exactFilter_mean (average delay : Int64) :
    (exactFilter average delay).toInt = TruncatedMean.mean 4 1 average.toInt delay.toInt := by
  have hhigh := TruncatedMean.mean_le (p := 4) (q := 1) (by decide) (by decide) (by decide)
    (Int.le_sub_one_of_lt average.toInt_lt) (Int.le_sub_one_of_lt delay.toInt_lt)
  have hlow := TruncatedMean.le_mean (p := 4) (q := 1) (by decide) (by decide) (by decide)
    (Int64.le_toInt average) (Int64.le_toInt delay)
  have hmean : TruncatedMean.mean 4 1 average.toInt delay.toInt =
      (4 * average.toInt + delay.toInt).tdiv 5 := by
    rw [TruncatedMean.mean,one_mul]
    rfl
  rw [hmean] at hhigh hlow
  rw [exactFilter,hmean]
  exact Int64.toInt_ofInt_of_le hlow (by omega)

theorem addFrame_average (filter : Int64 → Int64 → Int64) (frame : ServerFrame) (c : Client)
    (k : Camera) : (c.addFrame filter frame).movingAverageServer.get k =
      if Camera.ofNumber frame.server = some k then
        filter (c.movingAverageServer.get k) (frame.received - frame.sent)
      else c.movingAverageServer.get k := by
  unfold addFrame
  cases hserver : Camera.ofNumber frame.server with
  | none => rfl
  | some j =>
    simp only [Option.some.injEq]
    split_ifs with hk
    · rw [hk,PerCamera.get_set]
    · exact PerCamera.get_set_ne _ (Ne.symm hk) _

theorem adaptSyncTime_average (c : Client) :
    c.adaptSyncTime.movingAverageServer = c.movingAverageServer := by
  unfold adaptSyncTime
  split_ifs <;> rfl

theorem adaptSyncTime_escalate {c : Client} (hlow : 0 ≤ c.syncTime)
    (hhigh : c.syncTime ≤ longestSyncTime) :
    c.adaptSyncTime.syncTime = escalate (c.average .one) c.syncTime := by
  have hlimit : longestSyncTime = 2251799813685248000 := by decide
  have hdouble : (c.currentSyncTimeMs * 2).toInt = 2 * c.syncTime := by
    have htwo : (2 : Int64).toInt = 2 := by decide
    rw [Int64.toInt_mul,htwo,Int.mul_comm]
    exact Int.bmod_eq_of_le (by simp only [syncTime] at *; omega)
      (by simp only [syncTime] at *; omega)
  have hquadruple : (4 * c.currentSyncTimeMs).toInt = 4 * c.syncTime := by
    have hfour : (4 : Int64).toInt = 4 := by decide
    rw [Int64.toInt_mul,hfour]
    exact Int.bmod_eq_of_le (by simp only [syncTime] at *; omega)
      (by simp only [syncTime] at *; omega)
  have hself : max c.movingAverageServer.one c.movingAverageServer.one =
      c.movingAverageServer.one := ite_self _
  have hcompare : c.currentSyncTimeMs * 2 <
      max c.movingAverageServer.one c.movingAverageServer.one ↔
        2 * c.syncTime < c.average .one := by
    rw [hself,Int64.lt_iff_toInt_lt,hdouble]
    rfl
  unfold adaptSyncTime escalate
  simp only [hcompare]
  split_ifs
  · exact hquadruple
  · rfl

structure Escalated (high syncTime : ℤ) : Prop where
  power : ∃ n : ℕ, syncTime = 500 * 4 ^ n
  bounded : syncTime = 500 ∨ syncTime < 2 * high

theorem Escalated.mono {high high' syncTime : ℤ} (h : Escalated high syncTime)
    (hle : high ≤ high') : Escalated high' syncTime :=
  ⟨h.power,h.bounded.imp_right (fun hlt => by omega)⟩

theorem Escalated.low {high syncTime : ℤ} (h : Escalated high syncTime) : 500 ≤ syncTime := by
  obtain ⟨n,rfl⟩ := h.power
  have hpow : (1 : ℤ) ≤ 4 ^ n := one_le_pow₀ (by decide)
  omega

theorem Escalated.limit {high syncTime : ℤ} (h : Escalated high syncTime)
    (hhigh : high ≤ 2 * longestSyncTime) : syncTime ≤ longestSyncTime := by
  obtain ⟨n,rfl⟩ := h.power
  rcases Nat.lt_or_ge 26 n with hn | hn
  · have hpow : (4 : ℤ) ^ 27 ≤ 4 ^ n := pow_le_pow_right₀ (by decide) hn
    have hbounded := h.bounded
    rw [longestSyncTime] at hhigh
    omega
  · exact mul_le_mul_of_nonneg_left (pow_le_pow_right₀ (by decide) hn) (by decide)

theorem Escalated.escalate {high average syncTime : ℤ} (h : Escalated high syncTime)
    (haverage : average ≤ high) : Escalated high (escalate average syncTime) := by
  unfold Client.escalate
  split_ifs with hlate
  · obtain ⟨n,hn⟩ := h.power
    refine ⟨⟨n + 1,by rw [hn,pow_succ]; ring⟩,.inr ?_⟩
    omega
  · exact h

theorem le_escalate {average syncTime : ℤ} (h : 0 ≤ syncTime) :
    syncTime ≤ escalate average syncTime := by
  unfold escalate
  split_ifs <;> omega

end VideoSurveillance.Client

namespace VideoSurveillance.Updater

def Event.delay (k : Camera) : Event → Option ℤ
  | .addFrame _ frame =>
    if Camera.ofNumber frame.server = some k then some (frame.received - frame.sent).toInt else none
  | _ => none

def delays (k : Camera) (events : List Event) : List ℤ := events.filterMap (Event.delay k)

def smallestDelay (k : Camera) (events : List Event) : ℤ := (delays k events).foldl min 0

def largestDelay (k : Camera) (events : List Event) : ℤ := (delays k events).foldl max 0

theorem delays_snoc (k : Camera) (events : List Event) (e : Event) :
    delays k (events ++ [e]) = delays k events ++ (e.delay k).toList := by
  rw [delays,List.filterMap_append,← delays]
  cases hd : e.delay k <;> simp [hd]

theorem smallestDelay_snoc (k : Camera) (events : List Event) (e : Event) :
    smallestDelay k (events ++ [e]) = (e.delay k).toList.foldl min (smallestDelay k events) := by
  rw [smallestDelay,delays_snoc,List.foldl_append,← smallestDelay]

theorem largestDelay_snoc (k : Camera) (events : List Event) (e : Event) :
    largestDelay k (events ++ [e]) = (e.delay k).toList.foldl max (largestDelay k events) := by
  rw [largestDelay,delays_snoc,List.foldl_append,← largestDelay]

theorem largestDelay_mono (k : Camera) (events : List Event) (e : Event) :
    largestDelay k events ≤ largestDelay k (events ++ [e]) := by
  rw [largestDelay_snoc]
  cases e.delay k with
  | none => exact le_rfl
  | some d => exact le_max_left _ d

theorem largestDelay_le {k : Camera} {events : List Event} {high : ℤ} (hzero : 0 ≤ high)
    (h : ∀ d ∈ delays k events, d ≤ high) : largestDelay k events ≤ high := by
  induction events using List.reverseRecOn with
  | nil => exact hzero
  | append_singleton events e ih =>
    rw [delays_snoc] at h
    obtain ⟨hevents,he⟩ := List.forall_mem_append.mp h
    rw [largestDelay_snoc]
    cases hd : e.delay k with
    | none => exact ih hevents
    | some d => exact max_le (ih hevents) (he d (by simp [hd]))

theorem kept_averages :
    Kept (fun c d => d.movingAverageServer = c.movingAverageServer) where
  refl _ := rfl
  trans h k := k.trans h
  frames _ _ := rfl
  adaptSyncTime c := c.adaptSyncTime_average
  autoSynchronous c := (Client.samePlayout_autoSynchronous c).movingAverageServer
  autoAsynchronous c := (Client.samePlayout_autoAsynchronous c).movingAverageServer
  showFrame frame c := (Client.samePlayout_showFrame frame c).movingAverageServer

theorem averages_kept {filter : Int64 → Int64 → Int64} {s t : State} {e : Event}
    (he : ∀ now frame, e ≠ .addFrame now frame) (h : step filter s e = some t) :
    t.client.movingAverageServer = s.client.movingAverageServer := by
  by_cases hclicked : Clicked e
  · cases hclicked with
    | sync sync =>
      cases h
      exact (Client.samePlayout_setSyncMode sync _).movingAverageServer
    | auto =>
      cases h
      exact (Client.samePlayout_clickAuto _).movingAverageServer
  · exact kept_averages.step hclicked (fun now frame heq => absurd heq (he now frame)) h

theorem average_step {s t : State} {e : Event} (h : step Client.exactFilter s e = some t)
    (k : Camera) : t.client.average k = match e.delay k with
      | none => s.client.average k
      | some d => TruncatedMean.mean 4 1 (s.client.average k) d := by
  cases e with
  | addFrame now frame =>
    cases h
    rw [Client.average,Client.addFrame_average,Event.delay]
    split_ifs
    · exact Client.exactFilter_mean _ _
    · rfl
  | update | wake | clickSyncMode | clickAuto =>
    have hsame := averages_kept (by simp) h
    rw [Client.average,hsame]
    rfl

theorem average_between {events : List Event} {s : State}
    (hrun : (system Client.exactFilter).run events = some s) (k : Camera) :
    smallestDelay k events ≤ s.client.average k ∧ s.client.average k ≤ largestDelay k events := by
  induction events using List.reverseRecOn generalizing s with
  | nil =>
    cases hrun
    cases k <;> decide
  | append_singleton events e ih =>
    obtain ⟨u,hu,hstep⟩ := (system Client.exactFilter).run_snoc_some.mp hrun
    obtain ⟨hlow,hhigh⟩ := ih hu
    rw [average_step hstep k,smallestDelay_snoc,largestDelay_snoc]
    cases e.delay k with
    | none => exact ⟨hlow,hhigh⟩
    | some d =>
      constructor
      · exact TruncatedMean.le_mean (by decide) (by decide) (by decide)
          ((min_le_left _ d).trans hlow) (min_le_right _ d)
      · exact TruncatedMean.mean_le (by decide) (by decide) (by decide)
          (hhigh.trans (le_max_left _ d)) (le_max_right _ d)

theorem syncTime_step {filter : Int64 → Int64 → Int64} {s t : State} {e : Event}
    (hwait : FramesAwaited s) (h : step filter s e = some t) : SyncTimeFrom s.client t.client := by
  cases step_progress hwait h with
  | added now frame => exact .inl (Client.addFrame_syncTime filter frame _)
  | settled hsame => exact .inl hsame.currentSyncTimeMs
  | awaiting => exact .inl rfl
  | waiting _ _ _ _ hsync => exact hsync
  | poppedAsynchronous _ hsame => exact .inl hsame
  | poppedSynchronous _ _ _ hsync => exact hsync

theorem escalated_run {events : List Event} {s : State}
    (hrun : (system Client.exactFilter).run events = some s)
    (hdelays : largestDelay .one events ≤ 2 * Client.longestSyncTime) :
    Client.Escalated (largestDelay .one events) s.client.syncTime := by
  induction events using List.reverseRecOn generalizing s with
  | nil =>
    cases hrun
    exact ⟨⟨0,rfl⟩,.inl rfl⟩
  | append_singleton events e ih =>
    obtain ⟨u,hu,hstep⟩ := (system Client.exactFilter).run_snoc_some.mp hrun
    have hmono := largestDelay_mono .one events e
    have hbefore := (ih hu (hmono.trans hdelays)).mono hmono
    rcases syncTime_step (framesAwaited_run hu) hstep with hsame | hadapted
    · rw [Client.syncTime,hsame]
      exact hbefore
    · have hlow := hbefore.low
      rw [Client.syncTime,hadapted,← Client.syncTime,
        Client.adaptSyncTime_escalate (by omega) (hbefore.limit hdelays)]
      exact hbefore.escalate ((average_between hu .one).2.trans hmono)

theorem syncTime_grows {events : List Event} {s : State}
    (hrun : (system Client.exactFilter).run events = some s)
    (hdelays : largestDelay .one events ≤ 2 * Client.longestSyncTime) {prior : List Event}
    {u : State} (hprior : prior <+: events) (hu : (system Client.exactFilter).run prior = some u) :
    u.client.syncTime ≤ s.client.syncTime := by
  induction events using List.reverseRecOn generalizing s with
  | nil =>
    obtain rfl := List.prefix_nil.mp hprior
    obtain rfl := Option.some.inj (hu.symm.trans hrun)
    exact le_rfl
  | append_singleton events e ih =>
    obtain ⟨v,hv,hstep⟩ := (system Client.exactFilter).run_snoc_some.mp hrun
    rcases List.prefix_concat_iff.mp hprior with rfl | hprior
    · obtain rfl := Option.some.inj (hu.symm.trans hrun)
      exact le_rfl
    · have hdelays := (largestDelay_mono .one events e).trans hdelays
      have hbefore := escalated_run hv hdelays
      have hlow := hbefore.low
      refine (ih hv hdelays hprior).trans ?_
      rcases syncTime_step (framesAwaited_run hv) hstep with hsame | hadapted
      · rw [Client.syncTime,Client.syncTime,hsame]
      · have hgrown := Client.adaptSyncTime_escalate (by omega) (hbefore.limit hdelays)
        have hstepped : s.client.syncTime = v.client.adaptSyncTime.syncTime :=
          congrArg Int64.toInt hadapted
        rw [hstepped,hgrown]
        exact Client.le_escalate (by omega)

theorem playout_delay_bounded (events : List Event) (s : State)
    (hrun : (system Client.exactFilter).run events = some s) :
    (∀ k, smallestDelay k events ≤ s.client.average k ∧
      s.client.average k ≤ largestDelay k events) ∧
    ((∀ d ∈ delays .one events, d ≤ 1000 * 4 ^ 26) →
      (∃ n, s.client.syncTime = 500 * 4 ^ n) ∧
      (∀ prior u, prior <+: events → (system Client.exactFilter).run prior = some u →
        u.client.syncTime ≤ s.client.syncTime) ∧
      s.client.syncTime ≤ max 500 (2 * max (largestDelay .one events) (largestDelay .two events)) ∧
      2 * s.client.syncTime < 2 ^ 63 ∧ 4 * s.client.syncTime < 2 ^ 63) := by
  refine ⟨average_between hrun,fun hseen => ?_⟩
  have hdelays : largestDelay .one events ≤ 2 * Client.longestSyncTime :=
    largestDelay_le (by decide) hseen
  have hescalated := escalated_run hrun hdelays
  have hlimit := hescalated.limit hdelays
  have hlongest : Client.longestSyncTime = 2251799813685248000 := by decide
  have hone := le_max_left (largestDelay .one events) (largestDelay .two events)
  refine ⟨hescalated.power,fun prior u hp hu => syncTime_grows hrun hdelays hp hu,?_,by omega,
    by omega⟩
  rcases hescalated.bounded with hstart | hbelow
  · exact hstart.le.trans (le_max_left _ _)
  · exact le_max_of_le_right (by omega)

def delayedCamera : List Event :=
  [.clickSyncMode true,.addFrame 6000 ⟨[1],0,6000,1⟩,.addFrame 6000 ⟨[2],7000,6000,2⟩,
    .update 6000 6000 6000]

theorem playout_delay_bounded_delayedCamera :
    ∃ s, (system Client.exactFilter).run delayedCamera = some s ∧
      s.client.syncTime = 2000 ∧ s.client.average .one = 1200 ∧ s.client.average .two = -200 ∧
      smallestDelay .two delayedCamera = -1000 ∧ smallestDelay .two delayedCamera ≤ -200 ∧
      s.client.syncTime ≤ max 500
        (2 * max (largestDelay .one delayedCamera) (largestDelay .two delayedCamera)) := by
  refine ⟨_,rfl,by decide,by decide,by decide,by decide,?_,?_⟩
  · exact ((playout_delay_bounded delayedCamera _ rfl).1 .two).1
  · exact ((playout_delay_bounded delayedCamera _ rfl).2 (by decide)).2.2.1

def lateFrame : List Event :=
  [.addFrame 0 ⟨[],0,9223372036854775807,1⟩,
    .update 9223372036854775807 9223372036854775807 9223372036854775807]

def lateFrames : List Event := .clickSyncMode true :: (List.replicate 28 lateFrame).flatten

theorem sync_time_overflows :
    ¬ ∀ (events : List Event) (s : State), (system Client.exactFilter).run events = some s →
      ∃ n : ℕ, s.client.syncTime = 500 * 4 ^ n := by
  intro h
  have hsync : ((system Client.exactFilter).run lateFrames).map (fun s => s.client.syncTime) =
      some (-864691128455135232) := by decide +kernel
  obtain ⟨s,hrun,hsync⟩ := Option.map_eq_some_iff.mp hsync
  obtain ⟨n,hpower⟩ := h lateFrames s hrun
  have hpow : (0 : ℤ) < 4 ^ n := pow_pos (by decide) n
  omega

end VideoSurveillance.Updater
