import Mathlib.Algebra.Group.Int.Defs
import VideoSurveillance.Client.Update

namespace VideoSurveillance.Updater

def Event.readings : Event → List Int64
  | .addFrame now _ => [now]
  | .update t₁ t₂ t₃ => [t₁,t₂,t₃]
  | .wake t₁ t₂ t₃ => [t₁,t₂,t₃]
  | .clickSyncMode _ => []
  | .clickAuto => []

def SyncTimeFrom (c d : Client) : Prop :=
  d.currentSyncTimeMs = c.currentSyncTimeMs ∨
    d.currentSyncTimeMs = c.adaptSyncTime.currentSyncTimeMs

inductive Progress (filter : Int64 → Int64 → Int64) (s : State) : Event → State → Prop
  | added (now : Int64) (frame : ServerFrame) :
      Progress filter s (.addFrame now frame) { s with client := s.client.addFrame filter frame }
  | settled {e : Event} {c : Client} : Client.SamePlayout s.client c →
      Progress filter s e { s with client := c }
  | awaiting {e : Event} : Progress filter s e { s with place := .awaitFrame }
  | waiting {e : Event} {c : Client} {head : ServerFrame} {t : Int64} : t ∈ e.readings →
      c.frames = s.client.frames → c.frames.peek = some head →
      head.sent + c.currentSyncTimeMs > t →
      SyncTimeFrom s.client c →
      Progress filter s e ⟨c,.timedWait (head.sent + c.currentSyncTimeMs - t),s.popped⟩
  | poppedAsynchronous {e : Event} {c : Client} {frame : ServerFrame} :
      s.client.frames.pop = some (frame,c.frames) →
      c.currentSyncTimeMs = s.client.currentSyncTimeMs →
      Progress filter s e ⟨c,.outside,s.popped ++ [⟨frame,none⟩]⟩
  | poppedSynchronous {e : Event} {c : Client} {frame : ServerFrame} {q r : Int64} :
      r ∈ e.readings → (e.readings.Pairwise (· ≤ ·) → q ≤ r) →
      s.client.frames.pop = some (frame,c.frames) →
      SyncTimeFrom s.client c →
      ¬ frame.sent + c.currentSyncTimeMs > q →
      Progress filter s e ⟨c,.outside,s.popped ++ [⟨frame,some r⟩]⟩

theorem asynchronousBranch_spec (s : State) (h : s.client.frames.size ≠ 0) :
    ∃ c frame, s.client.frames.pop = some (frame,c.frames) ∧
      c.currentSyncTimeMs = s.client.currentSyncTimeMs ∧
      asynchronousBranch s = ⟨c,.outside,s.popped ++ [⟨frame,none⟩]⟩ := by
  obtain ⟨frame,rest,hp⟩ := FrameBuffer.pop_of_size h
  have hsame := (Client.samePlayout_autoSynchronous { s.client with frames := rest }).trans
    (Client.samePlayout_showFrame frame _)
  refine ⟨_,frame,?_,hsame.currentSyncTimeMs,?_⟩
  · rw [hsame.frames,hp]
  · rw [asynchronousBranch,hp]
    rfl

theorem synchronousPop_spec (r : Int64) (s : State) (h : s.client.frames.size ≠ 0) :
    ∃ c frame, s.client.frames.pop = some (frame,c.frames) ∧
      c.currentSyncTimeMs = s.client.currentSyncTimeMs ∧
      synchronousPop r s = ⟨c,.outside,s.popped ++ [⟨frame,some r⟩]⟩ := by
  obtain ⟨frame,rest,hp⟩ := FrameBuffer.pop_of_size h
  have hauto := Client.samePlayout_autoAsynchronous s.client
  have hshow := Client.samePlayout_showFrame frame { s.client.autoAsynchronous with frames := rest }
  refine ⟨_,frame,?_,hshow.currentSyncTimeMs.trans hauto.currentSyncTimeMs,?_⟩
  · rw [hshow.frames,hp]
  · rw [synchronousPop,hauto.frames,hp]
    rfl

theorem synchronousBranch_progress (filter : Int64 → Int64 → Int64) {e : Event}
    {t₁ t₂ t₃ : Int64} (s : State) (h : s.client.frames.size ≠ 0)
    (he : e.readings = [t₁,t₂,t₃]) : Progress filter s e (synchronousBranch t₁ t₂ t₃ s) := by
  have hframes := s.client.adaptSyncTime_frames
  obtain ⟨head,rest,hp⟩ := FrameBuffer.pop_of_size h
  have hpeek : s.client.adaptSyncTime.frames.peek = some head := by
    rw [hframes,FrameBuffer.peek_of_pop hp]
  have hpop : ∀ q r, ¬ head.sent + s.client.adaptSyncTime.currentSyncTimeMs > q → r ∈ e.readings →
      (e.readings.Pairwise (· ≤ ·) → q ≤ r) →
      Progress filter s e (synchronousPop r { s with client := s.client.adaptSyncTime }) := by
    intro q r hq hr hqr
    obtain ⟨c,frame,hc,hsync,heq⟩ :=
      synchronousPop_spec r { s with client := s.client.adaptSyncTime } (by rwa [hframes])
    rw [hframes,hp,Option.some.injEq,Prod.mk.injEq] at hc
    obtain ⟨rfl,hrest⟩ := hc
    rw [heq]
    exact .poppedSynchronous hr hqr (hrest ▸ hp) (.inr hsync) (hsync ▸ hq)
  simp only [synchronousBranch,hpeek]
  split_ifs with h₁ h₂
  · exact .waiting (by simp [he]) hframes hpeek h₂ (.inr rfl)
  · refine hpop t₂ t₃ h₂ (by simp [he]) (fun hord => ?_)
    simp only [he,List.pairwise_cons,List.mem_cons] at hord
    exact hord.2.1 t₃ (by simp)
  · exact hpop t₁ t₁ h₁ (by simp [he]) (fun _ => by grind)

theorem afterTimedWait_progress (filter : Int64 → Int64 → Int64) {e : Event} {t₁ t₂ t₃ : Int64}
    (s : State) (h : s.client.frames.size ≠ 0) (he : e.readings = [t₁,t₂,t₃]) :
    Progress filter s e (afterTimedWait t₁ t₂ s) := by
  obtain ⟨head,rest,hp⟩ := FrameBuffer.pop_of_size h
  have hpeek := FrameBuffer.peek_of_pop hp
  simp only [afterTimedWait,hpeek]
  split_ifs with h₁
  · exact .waiting (by simp [he]) rfl hpeek h₁ (.inl rfl)
  · obtain ⟨c,frame,hc,hsync,heq⟩ := synchronousPop_spec t₂ s h
    rw [hp,Option.some.injEq,Prod.mk.injEq] at hc
    obtain ⟨rfl,hrest⟩ := hc
    rw [heq]
    refine .poppedSynchronous (by simp [he]) (fun hord => ?_) (hrest ▸ hp) (.inl hsync) (hsync ▸ h₁)
    simp only [he,List.pairwise_cons,List.mem_cons] at hord
    exact hord.1 t₂ (by simp)

theorem update_progress (filter : Int64 → Int64 → Int64) {e : Event} {t₁ t₂ t₃ : Int64}
    (s : State) (he : e.readings = [t₁,t₂,t₃]) : Progress filter s e (update t₁ t₂ t₃ s) := by
  unfold update
  split_ifs with h₀ h₁
  · exact .awaiting
  · obtain ⟨c,frame,hp,hsync,heq⟩ := asynchronousBranch_spec s (Ne.symm h₀)
    rw [heq]
    exact .poppedAsynchronous hp hsync
  · exact synchronousBranch_progress filter s (Ne.symm h₀) he

theorem step_progress {filter : Int64 → Int64 → Int64} {s t : State} {e : Event}
    (hwait : ∀ n, s.place = .timedWait n → s.client.frames.size ≠ 0)
    (h : step filter s e = some t) : Progress filter s e t := by
  cases stepped h with
  | addFrame now frame => exact .added now frame
  | update t₁ t₂ t₃ => exact update_progress filter s rfl
  | resumed t₁ t₂ t₃ => exact update_progress filter s rfl
  | woken t₁ t₂ t₃ hplace => exact afterTimedWait_progress filter s (hwait _ hplace) rfl
  | clickSyncMode sync => exact .settled (Client.samePlayout_setSyncMode sync _)
  | clickAuto => exact .settled (Client.samePlayout_clickAuto _)

def ClockForward (events : List Event) : Prop :=
  (events.flatMap Event.readings).Pairwise (· ≤ ·)

theorem clockForward_snoc {events : List Event} {e : Event} (h : ClockForward (events ++ [e])) :
    ClockForward events ∧ e.readings.Pairwise (· ≤ ·) ∧
      ∀ r ∈ events.flatMap Event.readings, ∀ t ∈ e.readings, r ≤ t := by
  rw [ClockForward,List.flatMap_append,List.flatMap_singleton] at h
  exact List.pairwise_append.mp h

def playoutDelay (c : Client) : ℤ :=
  if c.currentSyncTimeMs * 2 < max c.movingAverageServer.one c.movingAverageServer.one then
    4 * c.currentSyncTimeMs.toInt
  else c.currentSyncTimeMs.toInt

def TimeoutFits (dispTime : ℤ) (e : Event) : Prop :=
  ∀ t ∈ e.readings, dispTime - t.toInt < 2 ^ 63

instance (dispTime : ℤ) (e : Event) : Decidable (TimeoutFits dispTime e) :=
  List.decidableBAll (fun t : Int64 => dispTime - t.toInt < 2 ^ 63) e.readings

def TimesFit (s : State) (e : Event) : Prop :=
  playoutDelay s.client < 2 ^ 63 ∧
    ∀ f ∈ s.client.frames.frames, f.sentTime + playoutDelay s.client < 2 ^ 63 ∧
      TimeoutFits (f.sentTime + playoutDelay s.client) e

instance (s : State) (e : Event) : Decidable (TimesFit s e) := inferInstanceAs (Decidable (_ ∧ _))

theorem syncTime_fits {s : State} {e : Event} {d : Client} (hfit : TimesFit s e)
    (hlow : 500 ≤ s.client.currentSyncTimeMs.toInt) (h : SyncTimeFrom s.client d) :
    500 ≤ d.currentSyncTimeMs.toInt ∧ d.currentSyncTimeMs.toInt ≤ playoutDelay s.client := by
  obtain ⟨hdelay,-⟩ := hfit
  unfold playoutDelay at hdelay ⊢
  rcases h with h | h
  · rw [h]
    split_ifs <;> omega
  · rw [h,Client.adaptSyncTime]
    split_ifs at hdelay ⊢ with ha
    · have hmul : (4 * s.client.currentSyncTimeMs).toInt = 4 * s.client.currentSyncTimeMs.toInt := by
        rw [Int64.toInt_mul]
        exact Int.bmod_eq_of_le (by simp; omega) (by simp; omega)
      simp only [hmul]
      omega
    · omega

theorem dispTime_exact {s : State} {e : Event} {d : Client} {f : ServerFrame} (hfit : TimesFit s e)
    (hlow : 500 ≤ s.client.currentSyncTimeMs.toInt) (h : SyncTimeFrom s.client d)
    (hf : f ∈ s.client.frames.frames) :
    (f.sent + d.currentSyncTimeMs).toInt = f.sentTime + d.currentSyncTimeMs.toInt := by
  obtain ⟨hd,hd'⟩ := syncTime_fits hfit hlow h
  obtain ⟨hsum,-⟩ := hfit.2 f hf
  have hmin := Int64.le_toInt f.sent
  rw [Int64.toInt_add]
  exact Int.bmod_eq_of_le (by simp only [ServerFrame.sentTime] at *; omega)
    (by simp only [ServerFrame.sentTime] at *; omega)

theorem timeout_positive {s : State} {e : Event} {d : Client} {f : ServerFrame} {t : Int64}
    (hfit : TimesFit s e) (hlow : 500 ≤ s.client.currentSyncTimeMs.toInt)
    (h : SyncTimeFrom s.client d) (hf : f ∈ s.client.frames.frames) (ht : t ∈ e.readings)
    (hlate : f.sent + d.currentSyncTimeMs > t) : 0 < f.sent + d.currentSyncTimeMs - t := by
  have hexact := dispTime_exact hfit hlow h hf
  have hdelay := (syncTime_fits hfit hlow h).2
  have hwait := (hfit.2 f hf).2 t ht
  have hpos := Int64.lt_iff_toInt_lt.mp hlate
  rw [Int64.lt_iff_toInt_lt,Int64.toInt_sub,Int64.toInt_zero,
    Int.bmod_eq_of_le (by omega) (by omega)]
  omega

structure Playing (s : State) : Prop where
  waiting_frames : ∀ n, s.place = .timedWait n → s.client.frames.size ≠ 0
  waiting_positive : ∀ n, s.place = .timedWait n → 0 < n
  syncTime_low : 500 ≤ s.client.currentSyncTimeMs.toInt

theorem size_add (b : FrameBuffer) (frame : ServerFrame) : (b.add frame).size ≠ 0 := by
  have hmem : frame ∈ (b.add frame).frames := FrameBuffer.mem_add.mpr (.inl rfl)
  exact (List.length_pos_of_mem hmem).ne'

def FramesAwaited (s : State) : Prop :=
  ∀ n, s.place = .timedWait n → s.client.frames.size ≠ 0

theorem framesAwaited_progress {filter : Int64 → Int64 → Int64} {s t : State} {e : Event}
    (hs : FramesAwaited s) (h : Progress filter s e t) : FramesAwaited t := by
  cases h with
  | added now frame =>
    intro n hn
    rw [Client.addFrame_frames]
    exact size_add _ frame
  | settled hsame =>
    intro n hn
    rw [hsame.frames]
    exact hs n hn
  | waiting ht hframes hpeek hlate hsync =>
    intro n hn hsize
    rw [FrameBuffer.peek_eq_none.mpr hsize] at hpeek
    cases hpeek
  | awaiting | poppedAsynchronous | poppedSynchronous =>
    intro n hn
    cases hn

theorem framesAwaited_run {filter : Int64 → Int64 → Int64} {events : List Event} {s : State}
    (hrun : (system filter).run events = some s) : FramesAwaited s := by
  refine (system filter).invariant (I := FramesAwaited) (fun n hn => by cases hn) ?_ hrun
  intro t e u ht hstep
  exact framesAwaited_progress ht (step_progress ht hstep)

theorem playing_progress {filter : Int64 → Int64 → Int64} {s t : State} {e : Event}
    (hs : Playing s) (hfit : TimesFit s e)
    (h : Progress filter s e t) : Playing t := by
  refine ⟨framesAwaited_progress hs.waiting_frames h,?_,?_⟩
  · cases h with
    | added | settled => exact hs.waiting_positive
    | waiting ht hframes hpeek hlate hsync =>
      intro n hn
      cases hn
      rw [hframes] at hpeek
      exact timeout_positive hfit hs.syncTime_low hsync (List.mem_of_getLast? hpeek) ht hlate
    | awaiting | poppedAsynchronous | poppedSynchronous =>
      intro n hn
      cases hn
  · cases h with
    | added now frame =>
      rw [Client.addFrame_syncTime]
      exact hs.syncTime_low
    | settled hsame =>
      rw [hsame.currentSyncTimeMs]
      exact hs.syncTime_low
    | awaiting => exact hs.syncTime_low
    | waiting _ _ _ _ hsync => exact (syncTime_fits hfit hs.syncTime_low hsync).1
    | poppedAsynchronous _ hsync => exact hsync ▸ hs.syncTime_low
    | poppedSynchronous _ _ _ hsync _ => exact (syncTime_fits hfit hs.syncTime_low hsync).1

theorem playing_run {filter : Int64 → Int64 → Int64} {events : List Event} {s : State}
    (hrun : (system filter).run events = some s) (hfit : (system filter).Meets TimesFit events) :
    Playing s := by
  induction events using List.reverseRecOn generalizing s with
  | nil =>
    cases hrun
    exact ⟨by simp [system],by simp [system],by change 500 ≤ Client.start.currentSyncTimeMs.toInt; decide⟩
  | append_singleton events e ih =>
    obtain ⟨u,hu,hstep⟩ := (system filter).run_snoc_some.mp hrun
    obtain ⟨hfits,hfit'⟩ := (system filter).meets_snoc.mp hfit
    have hplay := ih hu hfits
    exact playing_progress hplay (hfit' u hu) (step_progress hplay.waiting_frames hstep)

structure OldestInTime (s t : State) (f : ServerFrame) (r : Int64) : Prop where
  removed : s.client.frames.frames = t.client.frames.frames ++ [f]
  oldest : ∀ g ∈ s.client.frames.frames, f.sentTime ≤ g.sentTime
  in_time : f.sentTime + t.client.currentSyncTimeMs.toInt ≤ r.toInt

theorem synchronous_pop_in_time {filter : Int64 → Int64 → Int64} {s t : State} {e : Event}
    {f : ServerFrame} {r : Int64} (hs : Playing s) (hfit : TimesFit s e)
    (hord : e.readings.Pairwise (· ≤ ·)) (h : Progress filter s e t)
    (hpop : t.popped = s.popped ++ [⟨f,some r⟩]) : r ∈ e.readings ∧ OldestInTime s t f r := by
  cases h with
  | added | settled | awaiting | waiting => simp at hpop
  | poppedAsynchronous => simp at hpop
  | @poppedSynchronous _ c g q r' hr hqr hp hsync hlate =>
    obtain ⟨rfl,rfl⟩ : g = f ∧ r' = r := by simpa using hpop
    have hframes := FrameBuffer.pop_eq_some.mp hp
    have hmem : g ∈ s.client.frames.frames := by simp [hframes]
    have hsum := dispTime_exact hfit hs.syncTime_low hsync hmem
    have hq := Int64.le_iff_toInt_le.mp (Int64.not_lt.mp hlate)
    have hqr := Int64.le_iff_toInt_le.mp (hqr hord)
    have hin : g.sentTime + c.currentSyncTimeMs.toInt ≤ r'.toInt := by omega
    exact ⟨hr,hframes,FrameBuffer.pop_oldest hp,hin⟩

def AddedPromptly (events : List Event) : Prop :=
  ∀ now frame, .addFrame now frame ∈ events → now.toInt ≤ frame.sentTime + 500

structure InOrder (events : List Event) (s : State) : Prop where
  shown_late : ∀ p ∈ s.popped, ∀ r, p.reading = some r →
    r ∈ events.flatMap Event.readings ∧ p.frame.sentTime + 500 ≤ r.toInt
  before_buffer : ∀ p ∈ s.popped, p.reading.isSome →
    ∀ g ∈ s.client.frames.frames, p.frame.sentTime ≤ g.sentTime
  sorted : (s.popped.filter (fun p => p.reading.isSome)).Pairwise
    (fun p q => p.frame.sentTime ≤ q.frame.sentTime)

theorem InOrder.weaken {events : List Event} {s t : State} (h : InOrder events s) (e : Event)
    (hp : t.popped = s.popped)
    (hf : ∀ g ∈ t.client.frames.frames, g ∈ s.client.frames.frames) : InOrder (events ++ [e]) t where
  shown_late := by
    intro p hmem r hr
    obtain ⟨h₁,h₂⟩ := h.shown_late p (hp ▸ hmem) r hr
    exact ⟨by simp [h₁],h₂⟩
  before_buffer := fun p hmem hr g hg => h.before_buffer p (hp ▸ hmem) hr g (hf g hg)
  sorted := hp ▸ h.sorted

theorem inOrder_added {filter : Int64 → Int64 → Int64} {events : List Event} {s : State}
    {now : Int64} {frame : ServerFrame} (h : InOrder events s)
    (hnow : now.toInt ≤ frame.sentTime + 500)
    (hclock : ∀ r ∈ events.flatMap Event.readings, r ≤ now) :
    InOrder (events ++ [.addFrame now frame])
      { s with client := s.client.addFrame filter frame } where
  shown_late := by
    intro p hp r hr
    obtain ⟨h₁,h₂⟩ := h.shown_late p hp r hr
    exact ⟨by simp [h₁],h₂⟩
  before_buffer := by
    intro p hp hr g hg
    rw [Client.addFrame_frames,FrameBuffer.mem_add] at hg
    rcases hg with rfl | hg
    · obtain ⟨r,hr⟩ := Option.isSome_iff_exists.mp hr
      obtain ⟨hmem,hlate⟩ := h.shown_late p hp r hr
      have hle := Int64.le_iff_toInt_le.mp (hclock r hmem)
      omega
    · exact h.before_buffer p hp hr g hg
  sorted := h.sorted

theorem inOrder_popped {events : List Event} {s t : State} {e : Event} {frame : ServerFrame}
    {reading : Option Int64} (h : InOrder events s)
    (hpop : t.popped = s.popped ++ [⟨frame,reading⟩])
    (hframes : s.client.frames.frames = t.client.frames.frames ++ [frame])
    (hnew : ∀ r, reading = some r → r ∈ e.readings ∧ frame.sentTime + 500 ≤ r.toInt ∧
      ∀ g ∈ s.client.frames.frames, frame.sentTime ≤ g.sentTime) : InOrder (events ++ [e]) t where
  shown_late := by
    intro p hp r hr
    rw [hpop,List.mem_append,List.mem_singleton] at hp
    rcases hp with hp | rfl
    · obtain ⟨h₁,h₂⟩ := h.shown_late p hp r hr
      exact ⟨by simp [h₁],h₂⟩
    · obtain ⟨h₁,h₂,-⟩ := hnew r hr
      exact ⟨by simp [h₁],h₂⟩
  before_buffer := by
    intro p hp hr g hg
    have hg' : g ∈ s.client.frames.frames := by simp [hframes,hg]
    rw [hpop,List.mem_append,List.mem_singleton] at hp
    rcases hp with hp | rfl
    · exact h.before_buffer p hp hr g hg'
    · obtain ⟨r,hr⟩ := Option.isSome_iff_exists.mp hr
      exact (hnew r hr).2.2 g hg'
  sorted := by
    rw [hpop,List.filter_append]
    refine List.pairwise_append.mpr ⟨h.sorted,(List.pairwise_singleton _ _).filter _,?_⟩
    intro p hp q hq
    obtain ⟨hp,hsome⟩ := List.mem_filter.mp hp
    obtain rfl : q = ⟨frame,reading⟩ := List.mem_singleton.mp (List.mem_filter.mp hq).1
    exact h.before_buffer p hp hsome frame (by simp [hframes])

theorem inOrder_run {filter : Int64 → Int64 → Int64} {events : List Event} {s : State}
    (hrun : (system filter).run events = some s) (hclock : ClockForward events)
    (hfit : (system filter).Meets TimesFit events) (hprompt : AddedPromptly events) :
    InOrder events s := by
  induction events using List.reverseRecOn generalizing s with
  | nil =>
    cases hrun
    exact ⟨by simp [system],by simp [system],by simp [system]⟩
  | append_singleton events e ih =>
    obtain ⟨u,hu,hstep⟩ := (system filter).run_snoc_some.mp hrun
    obtain ⟨hes,hord,hlater⟩ := clockForward_snoc hclock
    obtain ⟨hfits,hfit⟩ := (system filter).meets_snoc.mp hfit
    have hplay := playing_run hu hfits
    have hin := ih hu hes hfits (fun now frame hm => hprompt now frame (by simp [hm]))
    have hfit' := hfit u hu
    have hprog := step_progress hplay.waiting_frames hstep
    have hsynchronous : ∀ f r, s.popped = u.popped ++ [⟨f,some r⟩] →
        r ∈ e.readings ∧ OldestInTime u s f r :=
      fun f r => synchronous_pop_in_time hplay hfit' hord hprog
    cases hprog with
    | added now frame =>
      exact inOrder_added hin (hprompt now frame (by simp))
        (fun r hr => hlater r hr now (by simp [Event.readings]))
    | settled hsame => exact hin.weaken e rfl (fun g hg => hsame.frames ▸ hg)
    | awaiting => exact hin.weaken e rfl (fun _ hg => hg)
    | waiting _ hframes => exact hin.weaken e rfl (fun g hg => hframes ▸ hg)
    | poppedAsynchronous hp =>
      exact inOrder_popped hin rfl (FrameBuffer.pop_eq_some.mp hp) (by simp)
    | @poppedSynchronous _ c frame q r _ _ _ hsync _ =>
      obtain ⟨hmem,hold⟩ := hsynchronous frame r rfl
      refine inOrder_popped hin rfl hold.removed ?_
      rintro r' ⟨⟩
      have hlow := (syncTime_fits hfit' hplay.syncTime_low hsync).1
      have hin := hold.in_time
      exact ⟨hmem,by simp only at hin; omega,hold.oldest⟩

theorem synchronised_playout (filter : Int64 → Int64 → Int64) (events : List Event) (s : State)
    (hrun : (system filter).run events = some s) (hclock : ClockForward events)
    (hfit : (system filter).Meets TimesFit events) :
    (∀ past e u v f r, past ++ [e] <+: events → (system filter).run past = some u →
      (system filter).step u e = some v → v.popped = u.popped ++ [⟨f,some r⟩] →
        r ∈ e.readings ∧ OldestInTime u v f r) ∧
    (∀ past u timeout, past <+: events → (system filter).run past = some u →
      u.place = .timedWait timeout → 0 < timeout) ∧
    (AddedPromptly events → (s.popped.filter (fun p => p.reading.isSome)).Pairwise
      (fun p q => p.frame.sentTime ≤ q.frame.sentTime)) := by
  have hclock' : ∀ past, past <+: events → ClockForward past := by
    rintro past ⟨rest,rfl⟩
    rw [ClockForward,List.flatMap_append] at hclock
    exact (List.pairwise_append.mp hclock).1
  have hplay : ∀ past u, past <+: events → (system filter).run past = some u → Playing u :=
    fun past u hp hu => playing_run hu (fun q d v hq => hfit q d v (hq.trans hp))
  refine ⟨?_,?_,fun hprompt => (inOrder_run hrun hclock hfit hprompt).sorted⟩
  · intro past e u v f r hp hu hv hpop
    have hpast : past <+: events := (List.prefix_append past [e]).trans hp
    obtain ⟨-,hord,-⟩ := clockForward_snoc (hclock' _ hp)
    have hs := hplay past u hpast hu
    exact synchronous_pop_in_time hs (hfit past e u hp hu) hord
      (step_progress hs.waiting_frames hv) hpop
  · intro past u timeout hp hu hw
    exact (hplay past u hp hu).waiting_positive timeout hw

def olderFrameDuringWait : List Event :=
  [.clickSyncMode true,.addFrame 1101 ⟨[1],1000,1101,1⟩,.update 1200 1200 1200,
    .addFrame 1210 ⟨[2],990,1091,2⟩,.wake 1490 1490 1490,.update 1500 1500 1500]

theorem synchronised_playout_olderFrame :
    ∃ s, (system Client.exactFilter).run olderFrameDuringWait = some s ∧
      s.popped = [⟨⟨[2],990,1091,2⟩,some 1490⟩,⟨⟨[1],1000,1101,1⟩,some 1500⟩] ∧
      (s.popped.filter (fun p => p.reading.isSome)).Pairwise
        (fun p q => p.frame.sentTime ≤ q.frame.sentTime) := by
  have hprompt : AddedPromptly olderFrameDuringWait := by
    intro now frame h
    simp only [olderFrameDuringWait,List.mem_cons,reduceCtorEq,Event.addFrame.injEq,
      List.not_mem_nil,or_false,false_or] at h
    rcases h with ⟨rfl,rfl⟩ | ⟨rfl,rfl⟩ <;> decide
  have hclock : ClockForward olderFrameDuringWait := by unfold ClockForward; decide
  exact ⟨_,rfl,by decide,(synchronised_playout Client.exactFilter olderFrameDuringWait _ rfl hclock
    (Runs.System.meets_of_check _ (by decide))).2.2 hprompt⟩

end VideoSurveillance.Updater
