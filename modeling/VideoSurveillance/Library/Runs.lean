import Mathlib.Data.List.Induction
import Mathlib.Data.List.Infix

namespace VideoSurveillance.Runs

structure System (S E : Type) where
  init : S
  step : S → E → Option S

namespace System
variable {S E H : Type} (M : System S E)

def after : S → List E → Option S
  | s, [] => some s
  | s, e :: es => (M.step s e).bind (fun t => after t es)

def run (es : List E) : Option S := M.after M.init es

@[simp] theorem after_nil (s : S) : M.after s [] = some s := rfl

@[simp] theorem run_nil : M.run [] = some M.init := rfl

theorem after_cons (s : S) (e : E) (es : List E) :
    M.after s (e :: es) = (M.step s e).bind (fun t => M.after t es) := rfl

theorem after_append (s : S) (es fs : List E) :
    M.after s (es ++ fs) = (M.after s es).bind (fun t => M.after t fs) := by
  induction es generalizing s with
  | nil => rfl
  | cons e es ih =>
    rw [List.cons_append,after_cons,after_cons,Option.bind_assoc]
    congr 1
    funext t
    exact ih t

theorem run_append (es fs : List E) :
    M.run (es ++ fs) = (M.run es).bind (fun t => M.after t fs) := M.after_append M.init es fs

theorem run_snoc (es : List E) (e : E) :
    M.run (es ++ [e]) = (M.run es).bind (fun s => M.step s e) := by
  rw [run_append]
  congr 1
  funext s
  cases hs : M.step s e <;> simp [after_cons,hs]

theorem run_snoc_some {es : List E} {e : E} {t : S} :
    M.run (es ++ [e]) = some t ↔ ∃ s, M.run es = some s ∧ M.step s e = some t := by
  rw [run_snoc,Option.bind_eq_some_iff]

def Meets (ok : S → E → Prop) (es : List E) : Prop :=
  ∀ p e s, p ++ [e] <+: es → M.run p = some s → ok s e

def Always (good : S → Prop) (es : List E) : Prop :=
  ∀ p s, p <+: es → M.run p = some s → good s

def checkMeets (ok : S → E → Prop) [∀ s e, Decidable (ok s e)] : S → List E → Bool
  | _, [] => true
  | s, e :: es => decide (ok s e) && (M.step s e).all (fun t => checkMeets ok t es)

theorem meets_of_check {ok : S → E → Prop} [∀ s e, Decidable (ok s e)] {es : List E}
    (h : M.checkMeets ok M.init es = true) : M.Meets ok es := by
  have hfrom : ∀ (es : List E) (s : S), M.checkMeets ok s es = true →
      ∀ p e t, p ++ [e] <+: es → M.after s p = some t → ok t e := by
    intro es
    induction es with
    | nil =>
      intro s _ p e t hp
      simp at hp
    | cons e es ih =>
      intro s hs p f t hp ht
      obtain ⟨hok,hrest⟩ := Bool.and_eq_true_iff.mp hs
      cases p with
      | nil =>
        obtain ⟨rfl,-⟩ := List.cons_prefix_cons.mp hp
        cases ht
        exact of_decide_eq_true hok
      | cons d p =>
        obtain ⟨rfl,htail⟩ := List.cons_prefix_cons.mp hp
        obtain ⟨u,hu,hafter⟩ := Option.bind_eq_some_iff.mp ht
        rw [hu] at hrest
        exact ih u hrest p f t htail hafter
  exact hfrom es M.init h

theorem meets_nil (ok : S → E → Prop) : M.Meets ok [] := by
  intro p e s hp _
  simp at hp

theorem meets_snoc {ok : S → E → Prop} {es : List E} {e : E} :
    M.Meets ok (es ++ [e]) ↔ M.Meets ok es ∧ ∀ s, M.run es = some s → ok s e := by
  constructor
  · intro h
    exact ⟨fun p f s hp => h p f s (hp.trans (List.prefix_append es [e])),
      fun s hs => h es e s (List.prefix_refl _) hs⟩
  · rintro ⟨hes,he⟩ p f s hp hs
    rcases List.prefix_concat_iff.mp hp with heq | hpre
    · obtain ⟨rfl,hf⟩ := List.append_inj' heq rfl
      cases hf
      exact he s hs
    · exact hes p f s hpre hs

theorem invariant_of_meets {I : S → Prop} {ok : S → E → Prop} (hinit : I M.init)
    (hstep : ∀ s e t, I s → ok s e → M.step s e = some t → I t) :
    ∀ {es : List E} {s : S}, M.Meets ok es → M.run es = some s → I s := by
  intro es
  induction es using List.reverseRecOn with
  | nil =>
    intro s _ h
    cases h
    exact hinit
  | append_singleton es e ih =>
    intro t hm h
    obtain ⟨s,hs,ht⟩ := M.run_snoc_some.mp h
    obtain ⟨hes,he⟩ := M.meets_snoc.mp hm
    exact hstep s e t (ih hes hs) (he s hs) ht

theorem invariant {I : S → Prop} (hinit : I M.init)
    (hstep : ∀ s e t, I s → M.step s e = some t → I t) {es : List E} {s : S}
    (h : M.run es = some s) : I s := by
  have hm : M.Meets (fun _ _ => True) es := fun _ _ _ _ _ => trivial
  exact M.invariant_of_meets hinit (fun s e t hi _ => hstep s e t hi) hm h

theorem always_iff_meets {I good : S → Prop} {ok : S → E → Prop} (hinit : I M.init)
    (hstep : ∀ s e t, I s → ok s e → M.step s e = some t → I t)
    (hgood : ∀ s, I s → good s)
    (hbad : ∀ s e t, I s → ¬ ok s e → M.step s e = some t → ¬ good t) {es : List E} {s : S}
    (h : M.run es = some s) : M.Always good es ↔ M.Meets ok es := by
  constructor
  · intro ha
    induction es using List.reverseRecOn generalizing s with
    | nil => exact M.meets_nil ok
    | append_singleton es e ih =>
      obtain ⟨t,ht,hs⟩ := M.run_snoc_some.mp h
      have hm : M.Meets ok es :=
        ih ht (fun p u hp hu => ha p u (hp.trans (List.prefix_append es [e])) hu)
      refine M.meets_snoc.mpr ⟨hm,fun u hu => ?_⟩
      by_contra hn
      have hi : I u := M.invariant_of_meets hinit hstep hm hu
      obtain rfl : u = t := Option.some.inj (hu.symm.trans ht)
      exact hbad u e s hi hn hs (ha _ s (List.prefix_refl _) h)
  · intro hm p t hp ht
    exact hgood t (M.invariant_of_meets hinit hstep
      (fun q e u hq hu => hm q e u (hq.trans hp) hu) ht)

theorem prefixes_iff_meets {good : List E → S → Prop} {ok : S → E → Prop} {es : List E} {s : S}
    (h : M.run es = some s) (hinit : good [] M.init)
    (hstep : ∀ p e t u, p ++ [e] <+: es → M.run p = some t → M.step t e = some u → good p t →
      (good (p ++ [e]) u ↔ ok t e)) :
    (∀ p t, p <+: es → M.run p = some t → good p t) ↔ M.Meets ok es := by
  induction es using List.reverseRecOn generalizing s with
  | nil =>
    refine iff_of_true (fun p t hp ht => ?_) (M.meets_nil ok)
    obtain rfl := List.prefix_nil.mp hp
    cases ht
    exact hinit
  | append_singleton es e ih =>
    obtain ⟨t,ht,hs⟩ := M.run_snoc_some.mp h
    have hes : es <+: es ++ [e] := List.prefix_append es [e]
    rw [M.meets_snoc,← ih ht (fun p f u v hp => hstep p f u v (hp.trans hes))]
    constructor
    · intro hgood
      refine ⟨fun p u hp => hgood p u (hp.trans hes),fun u hu => ?_⟩
      obtain rfl := Option.some.inj (hu.symm.trans ht)
      exact (hstep es e u s (List.prefix_refl _) hu hs (hgood es u hes hu)).mp
        (hgood _ s (List.prefix_refl _) h)
    · rintro ⟨hgood,hok⟩ p u hp hu
      rcases List.prefix_concat_iff.mp hp with rfl | hp
      · obtain rfl := Option.some.inj (hu.symm.trans h)
        exact (hstep es e t u (List.prefix_refl _) ht hs
          (hgood es t (List.prefix_refl _) ht)).mpr (hok t ht)
      · exact hgood p u hp hu

def track (start : H) (record : S → E → H → H) : System (S × H) E where
  init := (M.init,start)
  step := fun x e => (M.step x.1 e).map (fun t => (t,record x.1 e x.2))

theorem track_step {start : H} {record : S → E → H → H} {x y : S × H} {e : E} :
    (M.track start record).step x e = some y ↔
      M.step x.1 e = some y.1 ∧ y.2 = record x.1 e x.2 := by
  obtain ⟨t,k⟩ := y
  simp only [track,Option.map_eq_some_iff,Prod.mk.injEq]
  constructor
  · rintro ⟨u,hu,rfl,rfl⟩
    exact ⟨hu,rfl⟩
  · rintro ⟨hu,rfl⟩
    exact ⟨t,hu,rfl,rfl⟩

theorem track_run (start : H) (record : S → E → H → H) (es : List E) :
    ((M.track start record).run es).map Prod.fst = M.run es := by
  induction es using List.reverseRecOn with
  | nil => rfl
  | append_singleton es e ih =>
    rw [run_snoc,run_snoc,← ih]
    cases (M.track start record).run es with
    | none => rfl
    | some x => simp [track,Option.map_map,Function.comp_def]

section Simulation
variable {T F : Type} (N : System T F) (f : S → T) (g : E → F) {ok : S → E → Prop}

theorem run_map (hinit : N.init = f M.init)
    (hstep : ∀ s e, ok s e → N.step (f s) (g e) = (M.step s e).map f)
    {es : List E} (hm : M.Meets ok es) : N.run (es.map g) = (M.run es).map f := by
  induction es using List.reverseRecOn with
  | nil => simp [hinit]
  | append_singleton es e ih =>
    obtain ⟨hes,he⟩ := M.meets_snoc.mp hm
    rw [List.map_append,List.map_singleton,run_snoc,run_snoc,ih hes]
    cases hs : M.run es with
    | none => rfl
    | some s => simpa [hs] using hstep s e (he s hs)

def Follows (R : S → T → Prop) (es : List E) : Prop :=
  ∀ p s, p <+: es → M.run p = some s → ∃ t, N.run (p.map g) = some t ∧ R s t

theorem follows_iff_meets {R : S → T → Prop} (hinit : N.init = f M.init) (hrel : ∀ s, R s (f s))
    (hstep : ∀ s e, ok s e → N.step (f s) (g e) = (M.step s e).map f)
    (hbad : ∀ s e t u, ¬ ok s e → M.step s e = some t → N.step (f s) (g e) = some u → ¬ R t u)
    {es : List E} {s : S} (h : M.run es = some s) : M.Follows N g R es ↔ M.Meets ok es := by
  constructor
  · intro hf
    induction es using List.reverseRecOn generalizing s with
    | nil => exact M.meets_nil ok
    | append_singleton es e ih =>
      obtain ⟨t,ht,hs⟩ := M.run_snoc_some.mp h
      have hm : M.Meets ok es :=
        ih ht (fun p u hp hu => hf p u (hp.trans (List.prefix_append es [e])) hu)
      refine M.meets_snoc.mpr ⟨hm,fun u hu => ?_⟩
      by_contra hn
      obtain rfl : u = t := Option.some.inj (hu.symm.trans ht)
      obtain ⟨v,hv,hrv⟩ := hf _ s (List.prefix_refl _) h
      rw [List.map_append,List.map_singleton,run_snoc,M.run_map N f g hinit hstep hm,hu] at hv
      exact hbad u e s v hn hs hv hrv
  · intro hm p t hp ht
    refine ⟨f t,?_,hrel t⟩
    rw [M.run_map N f g hinit hstep (fun q e u hq hu => hm q e u (hq.trans hp) hu),ht]
    rfl

end Simulation

theorem after_filterMap {T F : Type} {N : System T F} {f : S → T} {g : E → Option F}
    (hseen : ∀ s e t e', g e = some e' → M.step s e = some t → N.step (f s) e' = some (f t))
    (hunseen : ∀ s e t, g e = none → M.step s e = some t → f t = f s) {es : List E} {s t : S}
    (h : M.after s es = some t) : N.after (f s) (es.filterMap g) = some (f t) := by
  induction es generalizing s with
  | nil =>
    cases h
    rfl
  | cons e es ih =>
    obtain ⟨u,hu,hrest⟩ := Option.bind_eq_some_iff.mp h
    cases hg : g e with
    | none =>
      rw [List.filterMap_cons_none hg,← hunseen s e u hg hu]
      exact ih hrest
    | some e' =>
      rw [List.filterMap_cons_some hg,after_cons,hseen s e u e' hg hu]
      exact ih hrest

end System

end VideoSurveillance.Runs
