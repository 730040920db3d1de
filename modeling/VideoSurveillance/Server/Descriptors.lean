import VideoSurveillance.Server.Sockets

namespace VideoSurveillance.Sockets

def Owner (s : State) (n : ℕ) : Connection → Prop
  | .standard => n < 3
  | .webSocket => n = 3
  | .jpegSocket => s.jpegSocket = some n
  | .stream k => k = s.session ∧ s.streamSocket = some n ∧ .closed ∉ s.listeners
  | .web => s.web = .serving n

def Accounted (s : State) : Prop := ∀ n c, s.table.lookup n = some c ↔ Owner s n c

theorem Accounted.unique {s : State} (h : Accounted s) {n : ℕ} {c d : Connection}
    (hc : Owner s n c) (hd : Owner s n d) : c = d :=
  Option.some.inj (((h n c).mpr hc).symm.trans ((h n d).mpr hd))

-- where the session's listener is, against the variable it shares with the stream thread
def Follows (streamSocket : Option ℕ) : StreamListener → Prop
  | .starting => streamSocket ≠ none
  | .reading fd _ => streamSocket = some fd
  | .closed => streamSocket ≠ none
  | .finished => streamSocket = none

def AllFinished (listeners : List StreamListener) : Prop := ∀ l ∈ listeners, l = .finished

def InLoop (p : StreamCallback) : Prop := p = .checking ∨ ∃ fd left, p = .writing fd left

inductive Phase (s : State) : Prop
  | between : s.stream = .opening ∨ s.stream = .accepting ∨ s.stream = .closing →
      s.streamSocket = none → AllFinished s.listeners → Phase s
  | creating (fd : ℕ) : s.stream = .creating → s.streamSocket = some fd →
      AllFinished s.listeners → Phase s
  | inLoop (past : List StreamListener) (l : StreamListener) : InLoop s.stream →
      s.listeners = past ++ [l] → AllFinished past → Follows s.streamSocket l → Phase s

structure Sound (s : State) : Prop where
  accounted : Accounted s
  phase : Phase s
  opening : s.jpegSocket = none ↔ s.stream = .opening
  few : s.table.slots.length ≤ 7

theorem closed_notMem {listeners : List StreamListener} (h : AllFinished listeners) :
    .closed ∉ listeners := fun hmem => nomatch h _ hmem

theorem closed_mem_snoc {past : List StreamListener} (h : AllFinished past) (l : StreamListener) :
    .closed ∈ past ++ [l] ↔ l = .closed := by
  rw [List.mem_append,or_iff_right (closed_notMem h),List.mem_singleton,eq_comm]

theorem some_free {P Q : ℕ → Prop} (hP : ∀ m n, P m → P n → m = n)
    (hQ : ∀ m n, Q m → Q n → m = n) : ∃ n, 3 < n ∧ n < 7 ∧ ¬ P n ∧ ¬ Q n := by
  have hdistinct : ∀ R : ℕ → Prop, (∀ m n, R m → R n → m = n) →
      (R 4 → ¬ R 5 ∧ ¬ R 6) ∧ (R 5 → ¬ R 6) := by
    intro R hR
    refine ⟨fun h4 => ⟨fun h5 => ?_,fun h6 => ?_⟩,fun h5 h6 => ?_⟩
    · cases hR 4 5 h4 h5
    · cases hR 4 6 h4 h6
    · cases hR 5 6 h5 h6
  have hp := hdistinct P hP
  have hq := hdistinct Q hQ
  by_cases h4 : P 4 ∨ Q 4
  · by_cases h5 : P 5 ∨ Q 5
    · exact ⟨6,by omega,by omega,by tauto,by tauto⟩
    · exact ⟨5,by omega,by omega,by tauto,by tauto⟩
  · exact ⟨4,by omega,by omega,by tauto,by tauto⟩

theorem lookup_unowned {s : State} (h : Accounted s) {n : ℕ} (hn : 3 < n)
    (hjpeg : s.jpegSocket ≠ some n) (hstream : s.streamSocket ≠ some n)
    (hweb : s.web ≠ .serving n) : s.table.lookup n = none := by
  cases hc : s.table.lookup n with
  | none => rfl
  | some c =>
    have howner := (h n c).mp hc
    cases c with
    | standard =>
      have hlt : n < 3 := howner
      omega
    | webSocket =>
      have heq : n = 3 := howner
      omega
    | jpegSocket => exact absurd howner hjpeg
    | stream k => exact absurd howner.2.1 hstream
    | web => exact absurd howner hweb

theorem few_install {s : State} (h : Sound s) {n : ℕ} (hn : n < 7)
    (hfree : s.table.lookup n = none) (c : Connection) :
    (s.table.install c).slots.length ≤ 7 := by
  have hlow := LowestFree.Table.lowestFree_le hfree
  have hlen := s.table.length_install c
  have hfew := h.few
  omega

theorem accounted_install {s t : State} (h : Accounted s) {a : Connection}
    (htable : t.table = s.table.install a)
    (howner : ∀ n c, Owner t n c ↔ (n = s.table.lowestFree ∧ c = a) ∨ Owner s n c) :
    Accounted t := by
  intro n c
  rw [htable,LowestFree.Table.lookup_install_iff,h n c,howner]

theorem accounted_close {s t : State} (h : Accounted s) {fd : ℕ} {a : Connection}
    (hown : Owner s fd a) (hone : ∀ n, Owner s n a → n = fd)
    (htable : t.table = s.table.close fd) (hgone : ∀ n, ¬ Owner t n a)
    (hkept : ∀ n c, c ≠ a → (Owner t n c ↔ Owner s n c)) : Accounted t := by
  intro n c
  rw [htable,LowestFree.Table.lookup_close_iff,h n c]
  rcases eq_or_ne c a with rfl | hc
  · exact iff_of_false (fun hboth => hboth.1 (hone n hboth.2)) (hgone n)
  · rw [hkept n c hc,and_iff_right_iff_imp]
    rintro howner rfl
    exact hc (h.unique howner hown)

theorem accounted_moved {s t : State} (h : Accounted s) (htable : t.table = s.table)
    (howner : ∀ n c, Owner t n c ↔ Owner s n c) : Accounted t := by
  intro n c
  rw [htable,h n c,howner]

theorem followed {s : State} (h : Phase s) (hloop : InLoop s.stream) :
    ∃ past l, s.listeners = past ++ [l] ∧ AllFinished past ∧ Follows s.streamSocket l := by
  cases h with
  | between hout =>
    rcases hloop with hloop | ⟨fd,left,hloop⟩ <;> rw [hloop] at hout <;> simp at hout
  | creating fd hcreating =>
    rcases hloop with hloop | ⟨fd,left,hloop⟩ <;> cases hloop.symm.trans hcreating
  | inLoop past l _ hlisteners hpast hfollows => exact ⟨past,l,hlisteners,hpast,hfollows⟩

theorem outside_loop {s : State} (h : Phase s)
    (hout : s.stream = .opening ∨ s.stream = .accepting ∨ s.stream = .closing) :
    s.streamSocket = none ∧ AllFinished s.listeners := by
  cases h with
  | between _ hsocket hall => exact ⟨hsocket,hall⟩
  | creating fd hcreating => rw [hcreating] at hout; simp at hout
  | inLoop past l hloop =>
    rcases hloop with hloop | ⟨fd,left,hloop⟩ <;> rw [hloop] at hout <;> simp at hout

theorem live_listener {s : State} (h : Phase s) {i : ℕ} {l : StreamListener}
    (hi : s.listeners[i]? = some l) (hl : l ≠ .finished) :
    InLoop s.stream ∧ ∃ past, s.listeners = past ++ [l] ∧ i = past.length ∧ AllFinished past ∧
      Follows s.streamSocket l := by
  have hmem : l ∈ s.listeners := List.mem_of_getElem? hi
  cases h with
  | between _ _ hall => exact absurd (hall l hmem) hl
  | creating _ _ _ hall => exact absurd (hall l hmem) hl
  | inLoop past last hloop hlisteners hpast hfollows =>
    rw [hlisteners] at hi
    rcases Nat.lt_or_ge i past.length with hlt | hge
    · rw [List.getElem?_append_left hlt] at hi
      exact absurd (hpast l (List.mem_of_getElem? hi)) hl
    · rw [List.getElem?_append_right hge] at hi
      cases hk : i - past.length with
      | zero =>
        rw [hk] at hi
        cases hi
        exact ⟨hloop,past,hlisteners,by omega,hpast,hfollows⟩
      | succ k =>
        rw [hk] at hi
        cases hi

theorem serving_unique {p : WebCallback} (m n : ℕ) (hm : p = .serving m) (hn : p = .serving n) :
    m = n := by
  cases hm.symm.trans hn
  rfl

theorem some_unique {o : Option ℕ} (m n : ℕ) (hm : o = some m) (hn : o = some n) : m = n :=
  Option.some.inj (hm.symm.trans hn)

theorem sound_openJpegSocket {s : State} (h : Sound s) (hp : s.stream = .opening) :
    Sound { s with
      stream := .accepting
      jpegSocket := some s.table.lowestFree
      table := s.table.install .jpegSocket } := by
  obtain ⟨hsocket,hall⟩ := outside_loop h.phase (.inl hp)
  have hnone := h.opening.mpr hp
  obtain ⟨n,hlow,hlt,hweb,-⟩ := some_free (P := fun n => s.web = .serving n) (Q := fun _ => False)
    serving_unique nofun
  refine ⟨accounted_install h.accounted rfl ?_,.between (.inr (.inl rfl)) hsocket hall,by simp,?_⟩
  · intro n c
    cases c <;> simp [Owner,hnone,eq_comm]
  · exact few_install h hlt (lookup_unowned h.accounted hlow (by simp [hnone])
      (by simp [hsocket]) hweb) _

theorem sound_accept {s : State} (h : Sound s) (hp : s.stream = .accepting) :
    Sound { s with
      stream := .creating
      session := s.session + 1
      streamSocket := some s.table.lowestFree
      table := s.table.install (.stream (s.session + 1)) } := by
  obtain ⟨hsocket,hall⟩ := outside_loop h.phase (.inr (.inl hp))
  have hopening := h.opening
  rw [hp] at hopening
  obtain ⟨n,hlow,hlt,hweb,hjpeg⟩ := some_free (P := fun n => s.web = .serving n)
    (Q := fun n => s.jpegSocket = some n) serving_unique some_unique
  refine ⟨accounted_install h.accounted rfl ?_,.creating _ rfl rfl hall,by simpa using hopening,?_⟩
  · intro n c
    cases c with
    | stream k => simp [Owner,hsocket,closed_notMem hall,eq_comm,and_comm]
    | standard | webSocket | jpegSocket | web => simp [Owner]
  · exact few_install h hlt (lookup_unowned h.accounted hlow hjpeg (by simp [hsocket]) hweb) _

theorem sound_createListener {s : State} (h : Sound s) (hp : s.stream = .creating) :
    Sound { s with stream := .checking, listeners := s.listeners ++ [.starting] } := by
  have hopening := h.opening
  rw [hp] at hopening
  cases h.phase with
  | between hout => rw [hp] at hout; simp at hout
  | inLoop past l hloop =>
    rcases hloop with hloop | ⟨fd,left,hloop⟩ <;> cases hloop.symm.trans hp
  | creating fd _ hsocket hall =>
    refine ⟨accounted_moved h.accounted rfl ?_,
      .inLoop s.listeners .starting (.inl rfl) rfl hall (by simp [Follows,hsocket]),
      by simpa using hopening,h.few⟩
    intro n c
    cases c with
    | stream k => simp [Owner]
    | standard | webSocket | jpegSocket | web => exact Iff.rfl

theorem sound_looped {s : State} (h : Sound s) (hloop : InLoop s.stream) {p : StreamCallback}
    (hp : InLoop p) (deliveries : List Delivery) :
    Sound { s with stream := p, deliveries := deliveries } := by
  obtain ⟨past,l,hlisteners,hpast,hfollows⟩ := followed h.phase hloop
  have hopening : s.stream ≠ .opening := by
    rcases hloop with hloop | ⟨fd,left,hloop⟩ <;> rw [hloop] <;> nofun
  have hp' : p ≠ .opening := by
    rcases hp with rfl | ⟨fd,left,rfl⟩ <;> nofun
  refine ⟨accounted_moved h.accounted rfl ?_,.inLoop past l hp hlisteners hpast hfollows,
    iff_of_false (mt h.opening.mp hopening) hp',h.few⟩
  intro n c
  cases c <;> exact Iff.rfl

theorem sound_leaveLoop {s : State} (h : Sound s) (hp : s.stream = .checking)
    (hsocket : s.streamSocket = none) : Sound { s with stream := .closing } := by
  obtain ⟨past,l,hlisteners,hpast,hfollows⟩ := followed h.phase (.inl hp)
  have hopening := h.opening
  rw [hp] at hopening
  have hl : l = .finished := by
    rw [hsocket] at hfollows
    cases l with
    | starting | closed => exact absurd rfl hfollows
    | reading => cases hfollows
    | finished => rfl
  have hall : AllFinished s.listeners := by
    intro m hm
    rw [hlisteners,List.mem_append,List.mem_singleton] at hm
    rcases hm with hm | rfl
    · exact hpast m hm
    · exact hl
  refine ⟨accounted_moved h.accounted rfl ?_,.between (.inr (.inr rfl)) hsocket hall,
    by simpa using hopening,h.few⟩
  intro n c
  cases c <;> exact Iff.rfl

theorem sound_closeJpegSocket {s : State} (h : Sound s) (hp : s.stream = .closing) {fd : ℕ}
    (hjpeg : s.jpegSocket = some fd) :
    Sound { s with stream := .opening, jpegSocket := none, table := s.table.close fd } := by
  obtain ⟨hsocket,hall⟩ := outside_loop h.phase (.inr (.inr hp))
  refine ⟨accounted_close (a := .jpegSocket) h.accounted hjpeg
    (fun n hn => some_unique n fd hn hjpeg) rfl (fun n => by simp [Owner]) ?_,
    .between (.inl rfl) hsocket hall,by simp,?_⟩
  · intro n c hc
    cases c with
    | jpegSocket => exact absurd rfl hc
    | standard | webSocket | stream | web => exact Iff.rfl
  · rw [LowestFree.Table.length_close]
    exact h.few

theorem sound_stream {s t : State} {e : StreamEvent} (h : Sound s)
    (hs : streamStep s e = some t) : Sound t := by
  cases e with
  | openJpegSocket =>
    simp only [streamStep] at hs
    split at hs
    · next hp =>
      cases hs
      exact sound_openJpegSocket h hp
    · cases hs
  | accept =>
    simp only [streamStep] at hs
    split at hs
    · next hp =>
      cases hs
      exact sound_accept h hp
    · cases hs
  | createListener =>
    simp only [streamStep] at hs
    split at hs
    · next hp =>
      cases hs
      exact sound_createListener h hp
    · cases hs
  | captureFrame writer timeUnix data =>
    simp only [streamStep] at hs
    split at hs
    · next fd hp _ =>
      cases hs
      exact sound_looped h (.inl hp) (.inr ⟨_,_,rfl⟩) s.deliveries
    · cases hs
  | write =>
    simp only [streamStep] at hs
    split at hs
    · next fd data left hp =>
      cases hs
      obtain ⟨deliveries,hd⟩ := deliver_cases fd data s
      rw [hd]
      exact sound_looped h (.inr ⟨_,_,hp⟩) (.inr ⟨_,_,rfl⟩) deliveries
    · cases hs
  | endFrame =>
    simp only [streamStep] at hs
    split at hs
    · next hp =>
      cases hs
      exact sound_looped h (.inr ⟨_,_,hp⟩) (.inl rfl) s.deliveries
    · cases hs
  | leaveLoop =>
    simp only [streamStep] at hs
    split at hs
    · next hp hsocket =>
      cases hs
      exact sound_leaveLoop h hp hsocket
    · cases hs
  | closeJpegSocket =>
    simp only [streamStep] at hs
    split at hs
    · next fd hp hjpeg =>
      cases hs
      exact sound_closeJpegSocket h hp hjpeg
    · cases hs

theorem set_last (past : List StreamListener) (l m : StreamListener) :
    (past ++ [l]).set past.length m = past ++ [m] := by simp

theorem opening_loop {s : State} (h : Sound s) (hloop : InLoop s.stream) : s.jpegSocket ≠ none := by
  intro hnone
  have hp := h.opening.mp hnone
  rcases hloop with hloop | ⟨fd,left,hloop⟩ <;> cases hloop.symm.trans hp

theorem sound_listened {s : State} (h : Sound s) {i : ℕ} {l m : StreamListener}
    (hi : s.listeners[i]? = some l) (hfinished : l ≠ .finished) (hl : l ≠ .closed)
    (hm : m ≠ .closed) (hfollows : Follows s.streamSocket l → Follows s.streamSocket m) :
    Sound (setListener i m s) := by
  obtain ⟨hloop,past,hlisteners,rfl,hpast,hfollowed⟩ := live_listener h.phase hi hfinished
  refine ⟨accounted_moved h.accounted rfl ?_,
    .inLoop past m hloop (by rw [setListener,hlisteners,set_last]) hpast (hfollows hfollowed),
    h.opening,h.few⟩
  intro n c
  cases c with
  | stream k =>
    simp only [Owner,setListener,hlisteners,set_last,closed_mem_snoc hpast,hl,hm]
  | standard | webSocket | jpegSocket | web => exact Iff.rfl

theorem sound_closed {s : State} (h : Sound s) {i fd nothingCount : ℕ}
    (hi : s.listeners[i]? = some (.reading fd nothingCount)) :
    Sound { setListener i .closed s with table := s.table.close fd } := by
  obtain ⟨hloop,past,hlisteners,rfl,hpast,hsocket⟩ := live_listener h.phase hi (by simp)
  have hsome : s.streamSocket = some fd := hsocket
  have hown : Owner s fd (.stream s.session) := by
    refine ⟨rfl,hsome,?_⟩
    rw [hlisteners,closed_mem_snoc hpast]
    simp
  refine ⟨accounted_close h.accounted hown (fun n hn => some_unique n fd hn.2.1 hsome) rfl ?_ ?_,
    .inLoop past .closed hloop (by rw [setListener,hlisteners,set_last]) hpast ?_,h.opening,?_⟩
  · rintro n ⟨-,-,hmem⟩
    exact hmem (by simp only [setListener,hlisteners,set_last,closed_mem_snoc hpast])
  · intro n c hc
    cases c with
    | stream k =>
      have hk : k ≠ s.session := fun hk => hc (by rw [hk])
      exact iff_of_false (fun hk' => hk hk'.1) (fun hk' => hk hk'.1)
    | standard | webSocket | jpegSocket | web => exact Iff.rfl
  · simp [Follows,setListener,hsome]
  · rw [LowestFree.Table.length_close]
    exact h.few

theorem sound_storeInactive {s : State} (h : Sound s) {i : ℕ}
    (hi : s.listeners[i]? = some .closed) :
    Sound { setListener i .finished s with streamSocket := none } := by
  obtain ⟨hloop,past,hlisteners,rfl,hpast,-⟩ := live_listener h.phase hi (by simp)
  refine ⟨accounted_moved h.accounted rfl ?_,
    .inLoop past .finished hloop (by rw [setListener,hlisteners,set_last]) hpast rfl,h.opening,h.few⟩
  intro n c
  cases c with
  | stream k =>
    refine iff_of_false (fun hk => nomatch hk.2.1) (fun hk => hk.2.2 ?_)
    rw [hlisteners,closed_mem_snoc hpast]
  | standard | webSocket | jpegSocket | web => exact Iff.rfl

theorem sound_readCommand {s : State} (h : Sound s) {i fd nothingCount : ℕ}
    (hi : s.listeners[i]? = some (.reading fd nothingCount)) (jibberish : Bool) :
    Sound (readCommand i jibberish fd nothingCount s) := by
  simp only [readCommand]
  split_ifs
  · exact sound_closed h hi
  · exact sound_listened h hi (by simp) (by simp) (by simp) id
  · exact sound_closed h hi
  · exact sound_listened h hi (by simp) (by simp) (by simp) id

theorem sound_listener {i : ℕ} {s t : State} {e : ListenerEvent} (h : Sound s)
    (hs : listenerStep i s e = some t) : Sound t := by
  cases e with
  | start =>
    simp only [listenerStep] at hs
    split at hs
    · next fd hi hsocket =>
      cases hs
      exact sound_listened h hi (by simp) (by simp) (by simp) (fun _ => hsocket)
    · next hi hsocket =>
      obtain ⟨-,-,-,-,-,hfollows⟩ := live_listener h.phase hi (by simp)
      exact absurd hsocket hfollows
    · cases hs
  | read jibberish =>
    simp only [listenerStep] at hs
    split at hs
    · next hi _ =>
      cases hs
      exact sound_readCommand h hi jibberish
    · next hi hjpeg =>
      exact absurd hjpeg (opening_loop h (live_listener h.phase hi (by simp)).1)
    · cases hs
  | storeInactive =>
    simp only [listenerStep] at hs
    split at hs
    · next hi =>
      cases hs
      exact sound_storeInactive h hi
    · cases hs

theorem phase_web {s : State} (h : Phase s) (table : LowestFree.Table Connection)
    (web : WebCallback) : Phase { s with web := web, table := table } := by
  cases h with
  | between hout hsocket hall => exact .between hout hsocket hall
  | creating fd hp hsocket hall => exact .creating fd hp hsocket hall
  | inLoop past l hloop hlisteners hpast hfollows =>
    exact .inLoop past l hloop hlisteners hpast hfollows

theorem sound_web {s t : State} {e : WebEvent} (h : Sound s) (hs : webStep s e = some t) :
    Sound t := by
  cases e with
  | accept =>
    simp only [webStep] at hs
    split at hs
    · next hweb =>
      cases hs
      obtain ⟨n,hlow,hlt,hjpeg,hstream⟩ := some_free (P := fun n => s.jpegSocket = some n)
        (Q := fun n => s.streamSocket = some n) some_unique some_unique
      have hfree := lookup_unowned h.accounted hlow hjpeg hstream (by simp [hweb])
      refine ⟨accounted_install h.accounted rfl ?_,phase_web h.phase _ _,h.opening,
        few_install h hlt hfree _⟩
      intro n c
      cases c <;> simp [Owner,hweb,eq_comm]
    · cases hs
  | close =>
    simp only [webStep] at hs
    split at hs
    · next fd hweb =>
      cases hs
      refine ⟨accounted_close (a := .web) h.accounted hweb
        (fun n hn => serving_unique n fd hn hweb) rfl (fun n => by simp [Owner]) ?_,phase_web h.phase _ _,
        h.opening,?_⟩
      · intro n c hc
        cases c with
        | web => exact absurd rfl hc
        | standard | webSocket | stream | jpegSocket => exact Iff.rfl
      · rw [LowestFree.Table.length_close]
        exact h.few
    · cases hs

theorem sound_step {s t : State} {e : Event} (h : Sound s) (hs : step s e = some t) : Sound t := by
  cases e with
  | stream e => exact sound_stream h hs
  | listener i e => exact sound_listener h hs
  | web e => exact sound_web h hs

theorem accounted_start : Accounted start := by
  intro n c
  match n with
  | 0 | 1 | 2 | 3 | 4 => cases c <;> simp [start,LowestFree.Table.lookup,Owner]
  | n + 5 => cases c <;> simp [start,LowestFree.Table.lookup,Owner]

theorem sound_start : Sound start where
  accounted := accounted_start
  phase := .between (.inr (.inl rfl)) rfl nofun
  opening := by simp [start]
  few := by decide

theorem descriptors_never_leak (events : List Event) (s : State)
    (hrun : system.run events = some s) :
    (∀ n c, s.table.lookup n = some c ↔ Owner s n c) ∧
    (∀ n c, s.table.lookup n = some c → n < 7) ∧
    (∀ i fd nothingCount : ℕ, s.listeners[i]? = some (StreamListener.reading fd nothingCount) →
      s.table.lookup fd = some (.stream s.session)) ∧
    ∀ n k, s.table.lookup n = some (.stream k) → k = s.session ∧
      (InLoop s.stream ∨ s.stream = .creating) := by
  have h := system.invariant sound_start (fun _ _ _ => sound_step) hrun
  refine ⟨h.accounted,fun n c hc => (LowestFree.Table.lt_of_lookup hc).trans_le h.few,?_,?_⟩
  · intro i fd nothingCount hi
    obtain ⟨-,past,hlisteners,-,hpast,hsocket⟩ := live_listener h.phase hi (by simp)
    refine (h.accounted fd _).mpr ⟨rfl,hsocket,?_⟩
    rw [hlisteners,closed_mem_snoc hpast]
    simp
  · intro n k hn
    obtain ⟨hk,hsocket,-⟩ := (h.accounted n _).mp hn
    refine ⟨hk,?_⟩
    cases h.phase with
    | between _ hnone => cases hsocket.symm.trans hnone
    | creating _ hp => exact .inr hp
    | inLoop _ _ hloop => exact .inl hloop

def bothServed : List Event :=
  [.stream .accept,.web .accept,.stream .createListener,.listener 0 .start]

theorem descriptors_never_leak_bothServed : ∃ s, system.run bothServed = some s ∧
    (∀ n c, s.table.lookup n = some c ↔ Owner s n c) ∧
    (∀ n c, s.table.lookup n = some c → n < 7) ∧
    (∀ i fd nothingCount : ℕ, s.listeners[i]? = some (StreamListener.reading fd nothingCount) →
      s.table.lookup fd = some (.stream s.session)) ∧
    ∀ n k, s.table.lookup n = some (.stream k) → k = s.session ∧
      (InLoop s.stream ∨ s.stream = .creating) :=
  ⟨_,rfl,descriptors_never_leak bothServed _ rfl⟩

end VideoSurveillance.Sockets
