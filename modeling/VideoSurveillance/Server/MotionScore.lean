import Mathlib.Algebra.BigOperators.Ring.Finset
import Mathlib.Algebra.Order.Group.Abs
import Mathlib.Algebra.Order.Group.Int
import Mathlib.Tactic.Ring
import VideoSurveillance.Library.Accumulate
import VideoSurveillance.Server.ModeHandler

namespace VideoSurveillance

structure MediaFrame where
  data : List UInt8
  width : ℕ
  height : ℕ
  deriving DecidableEq

namespace MediaFrame

def byte (frame : MediaFrame) (pos : ℕ) : UInt8 := frame.data.getD pos 0

def charAt (frame : MediaFrame) (pos : Int32) : Int32 :=
  (frame.byte pos.toNatClampNeg).toInt8.toInt32

end MediaFrame

namespace MotionScore

def MOTION_THRESHOLD : Int32 := 10

def pixelDiff (curFrame prevFrame : MediaFrame) (i j : Int32) : Int32 :=
  let cPos := i + j
  let pPos := i + j
  (curFrame.charAt cPos - prevFrame.charAt pPos).abs

def analyseFrames (curFrame prevFrame : MediaFrame) : Int32 :=
  let curWidth := Int32.ofNat curFrame.width
  let curHeight := Int32.ofNat curFrame.height
  let result := (List.range curHeight.toNatClampNeg).foldl (fun result i =>
    (List.range curWidth.toNatClampNeg).foldl (fun result j =>
      result + pixelDiff curFrame prevFrame (Int32.ofNat i) (Int32.ofNat j)) result) 0
  result / (curWidth * curHeight)

def reportsMotion (frameOne frameTwo : MediaFrame) : Prop :=
  analyseFrames frameOne frameTwo > MOTION_THRESHOLD

instance (frameOne frameTwo : MediaFrame) : Decidable (reportsMotion frameOne frameTwo) :=
  inferInstanceAs (Decidable (MOTION_THRESHOLD < _))

def motionCallback {A : Type} (frameOne frameTwo : MediaFrame) (s : ModeHandler A) :
    ModeHandler A :=
  if reportsMotion frameOne frameTwo then s.setMode .movie 1 else s

def signed (b : UInt8) : ℤ := b.toInt8.toInt

def luminance (b : UInt8) : ℤ := b.toNat

theorem signed_eq (b : UInt8) :
    signed b = if luminance b < 128 then luminance b else luminance b - 256 := by
  have hb := b.toNat_lt
  have hsigned : signed b = (b.toNat : ℤ).bmod 256 := by
    rw [signed,Int8.toInt,UInt8.toBitVec_toInt8,BitVec.toInt_eq_toNat_bmod]
    rfl
  rw [hsigned,luminance,Int.bmod_def]
  split_ifs <;> omega

theorem abs_toInt {x : Int32} (h : -(2 ^ 31) < x.toInt) : x.abs.toInt = |x.toInt| := by
  have hmin : x.toBitVec ≠ BitVec.intMin 32 := by
    intro hx
    rw [Int32.toInt,hx] at h
    exact absurd h (by decide)
  rw [Int.abs_eq_natAbs]
  exact BitVec.toInt_abs_eq_natAbs_of_ne_intMin hmin

theorem signed_range (b : UInt8) : -128 ≤ signed b ∧ signed b ≤ 127 := by
  have hb := b.toNat_lt
  rw [signed_eq,luminance]
  split_ifs <;> omega

theorem charAt_toInt (frame : MediaFrame) {pos : ℕ} (h : pos < 2 ^ 31) :
    (frame.charAt (Int32.ofNat pos)).toInt = signed (frame.byte pos) := by
  rw [MediaFrame.charAt,Int8.toInt_toInt32,Int32.toNatClampNeg_ofNat_of_lt h,signed]

theorem pixelDiff_toInt (curFrame prevFrame : MediaFrame) {i j : ℕ} (h : i + j < 2 ^ 31) :
    (pixelDiff curFrame prevFrame (Int32.ofNat i) (Int32.ofNat j)).toInt =
      |signed (curFrame.byte (i + j)) - signed (prevFrame.byte (i + j))| := by
  have hcur := signed_range (curFrame.byte (i + j))
  have hprev := signed_range (prevFrame.byte (i + j))
  have hdiff : (curFrame.charAt (Int32.ofNat (i + j)) -
      prevFrame.charAt (Int32.ofNat (i + j))).toInt =
        signed (curFrame.byte (i + j)) - signed (prevFrame.byte (i + j)) := by
    rw [Int32.toInt_sub,charAt_toInt _ h,charAt_toInt _ h]
    exact Int.bmod_eq_of_le (by omega) (by omega)
  rw [pixelDiff,← Int32.ofNat_add,abs_toInt (by rw [hdiff]; omega),hdiff]

structure Geometry where
  width : ℕ
  height : ℕ
  stride : ℕ
  width_pos : 0 < width
  height_pos : 0 < height
  width_le : width ≤ stride
  score_fits : 255 * width * height < 2 ^ 31

namespace Geometry

def pixels (g : Geometry) : ℕ := g.width * g.height

def dataSize (g : Geometry) : ℕ := (g.height - 1) * g.stride + g.width

def sum (g : Geometry) (f : ℕ → ℕ → ℤ) : ℤ :=
  ∑ i ∈ Finset.range g.height, ∑ j ∈ Finset.range g.width, f i j

def InPlace (g : Geometry) : Prop := g.height = 1 ∨ g.stride = 1

theorem pixels_pos (g : Geometry) : 0 < g.pixels := Nat.mul_pos g.width_pos g.height_pos

theorem pixels_fit (g : Geometry) : 255 * g.pixels < 2 ^ 31 := by
  rw [pixels,← Nat.mul_assoc]
  exact g.score_fits

theorem width_le_pixels (g : Geometry) : g.width ≤ g.pixels :=
  Nat.le_mul_of_pos_right g.width g.height_pos

theorem height_le_pixels (g : Geometry) : g.height ≤ g.pixels :=
  Nat.le_mul_of_pos_left g.height g.width_pos

theorem position_inside (g : Geometry) {i j : ℕ} (hi : i < g.height) (hj : j < g.width) :
    i * g.stride + j < g.dataSize := by
  have hrow : i * g.stride ≤ (g.height - 1) * g.stride := Nat.mul_le_mul_right _ (by omega)
  rw [dataSize]
  omega

theorem read_le_position (g : Geometry) (i j : ℕ) : i + j ≤ i * g.stride + j := by
  have hstride : 0 < g.stride := g.width_pos.trans_le g.width_le
  exact Nat.add_le_add_right (Nat.le_mul_of_pos_right i hstride) j

theorem inPlace_position {g : Geometry} (h : g.InPlace) {i : ℕ} (hi : i < g.height) (j : ℕ) :
    i + j = i * g.stride + j := by
  rcases h with h | h
  · obtain rfl : i = 0 := by omega
    rw [Nat.zero_mul]
  · rw [h,Nat.mul_one]

theorem sum_congr (g : Geometry) {f f' : ℕ → ℕ → ℤ}
    (h : ∀ i < g.height, ∀ j < g.width, f i j = f' i j) : g.sum f = g.sum f' :=
  Finset.sum_congr rfl (fun i hi => Finset.sum_congr rfl (fun j hj =>
    h i (Finset.mem_range.mp hi) j (Finset.mem_range.mp hj)))

theorem sum_sub (g : Geometry) (f f' : ℕ → ℕ → ℤ) :
    g.sum (fun i j => f i j - f' i j) = g.sum f - g.sum f' := by
  simp only [sum,Finset.sum_sub_distrib]

theorem sum_mul (g : Geometry) (c : ℤ) (f : ℕ → ℕ → ℤ) :
    g.sum (fun i j => c * f i j) = c * g.sum f := by
  simp only [sum,Finset.mul_sum]

theorem sum_const (g : Geometry) (c : ℤ) : g.sum (fun _ _ => c) = g.pixels * c := by
  simp only [sum,pixels,Finset.sum_const,Finset.card_range,Int.nsmul_eq_mul]
  push_cast
  ring

def atPixel (a b i j : ℕ) : ℤ := if i = a ∧ j = b then 1 else 0

theorem sum_atPixel (g : Geometry) {a b : ℕ} (ha : a < g.height) (hb : b < g.width) :
    g.sum (atPixel a b) = 1 := by
  rw [sum,Finset.sum_eq_single_of_mem a (Finset.mem_range.mpr ha),
    Finset.sum_eq_single_of_mem b (Finset.mem_range.mpr hb)]
  · exact if_pos ⟨rfl,rfl⟩
  · exact fun j _ hj => if_neg (fun h => hj h.2)
  · exact fun i _ hi => Finset.sum_eq_zero (fun j _ => if_neg (fun h => hi h.1))

theorem stride_pos (g : Geometry) : 0 < g.stride := g.width_pos.trans_le g.width_le

theorem last_position (g : Geometry) {i j : ℕ} (hi : i < g.height) (hj : j < g.width) :
    i * g.stride + j = g.dataSize - 1 ↔ i = g.height - 1 ∧ j = g.width - 1 := by
  have hwidth := g.width_pos
  rw [dataSize]
  rcases eq_or_lt_of_le (Nat.le_sub_one_of_lt hi) with rfl | hrow
  · omega
  · have hnext : (i + 1) * g.stride ≤ (g.height - 1) * g.stride := Nat.mul_le_mul_right _ hrow
    have hle := g.width_le
    rw [Nat.succ_mul] at hnext
    omega

theorem read_before_last {g : Geometry} (h : ¬ g.InPlace) {i j : ℕ} (hi : i < g.height)
    (hj : j < g.width) : i + j < g.dataSize - 1 := by
  obtain ⟨hheight,hstride⟩ := not_or.mp h
  have hpos := g.stride_pos
  have htwo : (g.height - 1) * 2 ≤ (g.height - 1) * g.stride := Nat.mul_le_mul_left _ (by omega)
  rw [dataSize]
  omega

end Geometry

structure Picture (g : Geometry) where
  data : List UInt8
  full : g.dataSize ≤ data.length

namespace Picture
variable {g : Geometry}

def mediaFrame (p : Picture g) : MediaFrame := ⟨p.data,g.width,g.height⟩

def byte (p : Picture g) (pos : ℕ) : UInt8 := p.mediaFrame.byte pos

def shownDiff (cur prev : Picture g) (i j : ℕ) : ℤ :=
  |luminance (cur.byte (i * g.stride + j)) - luminance (prev.byte (i * g.stride + j))|

def readDiff (cur prev : Picture g) (i j : ℕ) : ℤ :=
  |signed (cur.byte (i + j)) - signed (prev.byte (i + j))|

def total (cur prev : Picture g) : ℤ := g.sum (shownDiff cur prev)

def mean (cur prev : Picture g) : ℤ := total cur prev / g.pixels

structure ScoreRight (cur prev : Picture g) : Prop where
  score : (analyseFrames cur.mediaFrame prev.mediaFrame).toInt = mean cur prev
  motion : ∀ {A : Type} (s : ModeHandler A), motionCallback cur.mediaFrame prev.mediaFrame s =
    if MOTION_THRESHOLD.toInt + 1 ≤ mean cur prev then s.setMode .movie 1 else s

theorem read_inside (p : Picture g) {i j : ℕ} (hi : i < g.height) (hj : j < g.width) :
    i + j < p.data.length :=
  ((g.read_le_position i j).trans_lt (g.position_inside hi hj)).trans_le p.full

theorem readDiff_range (cur prev : Picture g) (i j : ℕ) :
    0 ≤ readDiff cur prev i j ∧ readDiff cur prev i j ≤ 255 := by
  have hcur := signed_range (cur.byte (i + j))
  have hprev := signed_range (prev.byte (i + j))
  refine ⟨abs_nonneg _,?_⟩
  rw [readDiff,abs_le]
  omega

theorem analyseFrames_toInt (cur prev : Picture g) :
    (analyseFrames cur.mediaFrame prev.mediaFrame).toInt =
      g.sum (readDiff cur prev) / g.pixels := by
  have hpixels := g.pixels_fit
  have hwidth := g.width_le_pixels
  have hheight := g.height_le_pixels
  have hsize : (Int32.ofNat g.width * Int32.ofNat g.height).toInt = g.pixels := by
    rw [← Int32.ofNat_mul,Int32.toInt_ofNat_of_lt (by rw [Geometry.pixels] at hpixels; omega)]
    rfl
  have hdiff : ∀ i < g.height, ∀ j < g.width, (pixelDiff cur.mediaFrame prev.mediaFrame
      (Int32.ofNat i) (Int32.ofNat j)).toInt = readDiff cur prev i j :=
    fun i hi j hj => pixelDiff_toInt _ _ (by omega)
  have hresult := Accumulate.nested_toInt g.height g.width 255
    (f := fun i j => pixelDiff cur.mediaFrame prev.mediaFrame (Int32.ofNat i) (Int32.ofNat j))
    (fun i hi j hj => by rw [hdiff i hi j hj]; exact (readDiff_range cur prev i j).1)
    (fun i hi j hj => by rw [hdiff i hi j hj]; exact (readDiff_range cur prev i j).2)
    g.score_fits
  have hsum := g.sum_congr hdiff
  have hne : Int32.ofNat g.width * Int32.ofNat g.height ≠ -1 := by
    intro h
    rw [h] at hsize
    have hneg : (-1 : Int32).toInt = -1 := by decide
    omega
  have hnonneg : 0 ≤ g.sum (readDiff cur prev) :=
    Finset.sum_nonneg (fun i _ => Finset.sum_nonneg (fun j _ => (readDiff_range cur prev i j).1))
  simp only [analyseFrames,mediaFrame] at hresult ⊢
  rw [Int32.toInt_div_of_ne_right _ _ hne,hsize,
    Int32.toNatClampNeg_ofNat_of_lt (show g.height < 2 ^ 31 by omega),
    Int32.toNatClampNeg_ofNat_of_lt (show g.width < 2 ^ 31 by omega),hresult,
    Int.tdiv_eq_ediv_of_nonneg (by rw [← hsum] at hnonneg; exact hnonneg)]
  exact congrArg (· / (g.pixels : ℤ)) hsum

theorem reportsMotion_iff (frameOne frameTwo : MediaFrame) : reportsMotion frameOne frameTwo ↔
    MOTION_THRESHOLD.toInt + 1 ≤ (analyseFrames frameOne frameTwo).toInt := by
  rw [reportsMotion,gt_iff_lt,Int32.lt_iff_toInt_lt]
  exact Int.lt_iff_add_one_le

theorem scoreRight_iff (cur prev : Picture g) :
    ScoreRight cur prev ↔ g.sum (readDiff cur prev) / g.pixels = mean cur prev := by
  rw [← analyseFrames_toInt]
  refine ⟨ScoreRight.score,fun h => ⟨h,fun s => ?_⟩⟩
  simp only [motionCallback,reportsMotion_iff,h]

def Alike (a b : UInt8) : Prop :=
  (luminance a < 128 ↔ luminance b < 128) ∨ |luminance a - luminance b| = 128

theorem alike_iff (a b : UInt8) :
    Alike a b ↔ |signed a - signed b| = |luminance a - luminance b| := by
  have ha := a.toNat_lt
  have hb := b.toNat_lt
  rw [Alike,signed_eq,signed_eq]
  simp only [luminance,Int.abs_eq_natAbs]
  split_ifs <;> omega

def Dark (p : Picture g) : Prop := ∀ b ∈ p.data, luminance b < 128

theorem Dark.byte {p : Picture g} (h : Dark p) (pos : ℕ) : luminance (p.byte pos) < 128 := by
  rw [Picture.byte,MediaFrame.byte,List.getD_eq_getElem?_getD]
  cases hb : p.mediaFrame.data[pos]? with
  | none => decide
  | some b => exact h b (List.mem_of_getElem? hb)

def ofBytes (g : Geometry) (f : ℕ → UInt8) : Picture g where
  data := (List.range g.dataSize).map f
  full := by rw [List.length_map,List.length_range]

theorem ofBytes_byte (f : ℕ → UInt8) {pos : ℕ} (h : pos < g.dataSize) :
    (ofBytes g f).byte pos = f pos := by
  simp [byte,MediaFrame.byte,mediaFrame,ofBytes,h]

theorem scoreRight_inPlace (h : g.InPlace) {cur prev : Picture g}
    (halike : ∀ pos < g.dataSize, Alike (cur.byte pos) (prev.byte pos)) : ScoreRight cur prev := by
  have hread : g.sum (readDiff cur prev) = total cur prev := by
    refine g.sum_congr (fun i hi j hj => ?_)
    rw [readDiff,Geometry.inPlace_position h hi]
    exact (alike_iff _ _).mp (halike _ (g.position_inside hi hj))
  rw [scoreRight_iff,hread,mean]

theorem mean_const {cur prev : Picture g} {d : ℤ}
    (h : ∀ pos < g.dataSize, |luminance (cur.byte pos) - luminance (prev.byte pos)| = d) :
    mean cur prev = d := by
  have hpixels : (0 : ℤ) < g.pixels := by exact_mod_cast g.pixels_pos
  have htotal : total cur prev = g.pixels * d := by
    rw [← g.sum_const]
    exact g.sum_congr (fun i hi j hj => h _ (g.position_inside hi hj))
  rw [mean,htotal,Int.mul_ediv_cancel_left _ hpixels.ne']

theorem read_const {cur prev : Picture g} {d : ℤ} (h : ∀ i < g.height, ∀ j < g.width,
    |signed (cur.byte (i + j)) - signed (prev.byte (i + j))| = d) :
    g.sum (readDiff cur prev) / g.pixels = d := by
  have hpixels : (0 : ℤ) < g.pixels := by exact_mod_cast g.pixels_pos
  have hread : g.sum (readDiff cur prev) = g.pixels * d := by
    rw [← g.sum_const]
    exact g.sum_congr h
  rw [hread,Int.mul_ediv_cancel_left _ hpixels.ne']

theorem uniform_right_iff (g : Geometry) (a b : UInt8) :
    ScoreRight (ofBytes g (fun _ => a)) (ofBytes g (fun _ => b)) ↔ Alike a b := by
  have hshown : mean (ofBytes g (fun _ => a)) (ofBytes g (fun _ => b)) =
      |luminance a - luminance b| := by
    refine mean_const (fun pos hpos => ?_)
    rw [ofBytes_byte _ hpos,ofBytes_byte _ hpos]
  rw [scoreRight_iff,hshown,alike_iff,read_const (d := |signed a - signed b|)]
  intro i hi j hj
  have hpos := (g.read_le_position i j).trans_lt (g.position_inside hi hj)
  rw [ofBytes_byte _ hpos,ofBytes_byte _ hpos]

theorem scoreRight_steady {cur prev : Picture g} {d : ℤ}
    (halike : ∀ pos < g.dataSize, Alike (cur.byte pos) (prev.byte pos))
    (hd : ∀ pos < g.dataSize, |luminance (cur.byte pos) - luminance (prev.byte pos)| = d) :
    ScoreRight cur prev := by
  rw [scoreRight_iff,mean_const hd]
  refine read_const (fun i hi j hj => ?_)
  have hpos := (g.read_le_position i j).trans_lt (g.position_inside hi hj)
  rw [(alike_iff _ _).mp (halike _ hpos),hd _ hpos]

-- one byte everywhere but at the last pixel, which is read only in place
def lastByte (g : Geometry) (most last : UInt8) (pos : ℕ) : UInt8 :=
  if pos = g.dataSize - 1 then last else most

def lastApart (g : Geometry) (most last : UInt8) : Picture g := ofBytes g (lastByte g most last)

theorem lastApart_total (g : Geometry) (a b c d : UInt8) :
    total (lastApart g c a) (lastApart g d b) = g.pixels * |luminance c - luminance d| -
      (|luminance c - luminance d| - |luminance a - luminance b|) := by
  have hshown : ∀ i < g.height, ∀ j < g.width, shownDiff (lastApart g c a) (lastApart g d b) i j =
      |luminance c - luminance d| - (|luminance c - luminance d| - |luminance a - luminance b|) *
        Geometry.atPixel (g.height - 1) (g.width - 1) i j := by
    intro i hi j hj
    have hpos := g.position_inside hi hj
    rw [shownDiff,lastApart,lastApart,ofBytes_byte _ hpos,ofBytes_byte _ hpos,lastByte,lastByte]
    simp only [Geometry.atPixel,← g.last_position hi hj]
    split_ifs <;> ring
  rw [total,g.sum_congr hshown,g.sum_sub,g.sum_mul,g.sum_const,
    g.sum_atPixel (Nat.sub_lt g.height_pos one_pos) (Nat.sub_lt g.width_pos one_pos),mul_one]

theorem lastApart_missed {g : Geometry} (h : ¬ g.InPlace) {a b c d : UInt8} (hcd : Alike c d)
    (hless : |luminance a - luminance b| < |luminance c - luminance d|) :
    ¬ ScoreRight (lastApart g c a) (lastApart g d b) := by
  have hpixels : (0 : ℤ) < g.pixels := by exact_mod_cast g.pixels_pos
  have hread : g.sum (readDiff (lastApart g c a) (lastApart g d b)) / g.pixels =
      |luminance c - luminance d| := by
    refine read_const (fun i hi j hj => ?_)
    have hlast := Geometry.read_before_last h hi hj
    have hpos : i + j < g.dataSize := by omega
    rw [lastApart,lastApart,ofBytes_byte _ hpos,ofBytes_byte _ hpos,lastByte,lastByte,
      if_neg hlast.ne,if_neg hlast.ne]
    exact (alike_iff c d).mp hcd
  have hshown : mean (lastApart g c a) (lastApart g d b) < |luminance c - luminance d| := by
    rw [mean,lastApart_total,Int.ediv_lt_iff_lt_mul hpixels,mul_comm]
    omega
  rw [scoreRight_iff,hread]
  exact hshown.ne'

def Within (R : UInt8 → UInt8 → Prop) (cur prev : Picture g) : Prop :=
  ∀ pos < g.dataSize, R (cur.byte pos) (prev.byte pos)

def Steady (R : UInt8 → UInt8 → Prop) : Prop := ∀ a b c d, R a b → R c d →
  |luminance a - luminance b| = |luminance c - luminance d|

theorem within_uniform {R : UInt8 → UInt8 → Prop} {a b : UInt8} (h : R a b) :
    Within R (ofBytes g (fun _ => a)) (ofBytes g (fun _ => b)) := by
  intro pos hpos
  rwa [ofBytes_byte _ hpos,ofBytes_byte _ hpos]

theorem within_lastApart {R : UInt8 → UInt8 → Prop} {a b c d : UInt8} (hab : R a b) (hcd : R c d) :
    Within R (lastApart g c a) (lastApart g d b) := by
  intro pos hpos
  rw [lastApart,lastApart,ofBytes_byte _ hpos,ofBytes_byte _ hpos,lastByte,lastByte]
  split_ifs
  · exact hab
  · exact hcd

theorem steady_of_right {R : UInt8 → UInt8 → Prop} (hplace : ¬ g.InPlace)
    (halike : ∀ a b, R a b → Alike a b)
    (h : ∀ cur prev : Picture g, Within R cur prev → ScoreRight cur prev) : Steady R := by
  intro a b c d hab hcd
  rcases lt_trichotomy |luminance a - luminance b| |luminance c - luminance d| with hl | he | hg
  · exact absurd (h _ _ (within_lastApart hab hcd)) (lastApart_missed hplace (halike c d hcd) hl)
  · exact he
  · exact absurd (h _ _ (within_lastApart hcd hab)) (lastApart_missed hplace (halike a b hab) hg)

theorem within_right_iff (g : Geometry) (R : UInt8 → UInt8 → Prop) :
    (∀ cur prev : Picture g, Within R cur prev → ScoreRight cur prev) ↔
      (∀ a b, R a b → Alike a b) ∧ (g.InPlace ∨ Steady R) := by
  constructor
  · intro h
    have halike : ∀ a b, R a b → Alike a b :=
      fun a b hab => (uniform_right_iff g a b).mp (h _ _ (within_uniform hab))
    refine ⟨halike,?_⟩
    by_cases hplace : g.InPlace
    · exact .inl hplace
    · exact .inr (steady_of_right hplace halike h)
  · rintro ⟨halike,hplace | hsteady⟩ cur prev hwithin
    · exact scoreRight_inPlace hplace (fun pos hpos => halike _ _ (hwithin pos hpos))
    · have hfirst : 0 < g.dataSize := by
        have hwidth := g.width_pos
        rw [Geometry.dataSize]
        omega
      exact scoreRight_steady (fun pos hpos => halike _ _ (hwithin pos hpos))
        (fun pos hpos => hsteady _ _ _ _ (hwithin pos hpos) (hwithin 0 hfirst))

theorem dark_right_iff (g : Geometry) :
    (∀ cur prev : Picture g, Dark cur → Dark prev → ScoreRight cur prev) ↔ g.InPlace := by
  constructor
  · intro h
    by_contra hplace
    have hdark : ∀ a, luminance a < 128 → Dark (lastApart g a 0) := by
      intro a ha b hb
      obtain ⟨pos,_,rfl⟩ := List.mem_map.mp hb
      unfold lastByte
      split_ifs
      · decide
      · exact ha
    exact lastApart_missed hplace (a := 0) (b := 0) (c := 1) (d := 0) (.inl (by decide)) (by decide)
      (h _ _ (hdark 1 (by decide)) (hdark 0 (by decide)))
  · intro hplace cur prev hcur hprev
    exact scoreRight_inPlace hplace (fun pos _ => .inl (iff_of_true (hcur.byte _) (hprev.byte _)))

end Picture

open Picture

theorem motion_score_iff (g : Geometry) :
    (g.InPlace → ∀ cur prev : Picture g, Within Alike cur prev → ScoreRight cur prev) ∧
    (∀ R : UInt8 → UInt8 → Prop,
      (∀ cur prev : Picture g, Within R cur prev → ScoreRight cur prev) ↔
        (∀ a b, R a b → Alike a b) ∧ (g.InPlace ∨ Steady R)) ∧
    ((∀ cur prev : Picture g, Dark cur → Dark prev → ScoreRight cur prev) ↔ g.InPlace) ∧
    ∀ a b, ScoreRight (ofBytes g (fun _ => a)) (ofBytes g (fun _ => b)) ↔ Alike a b :=
  ⟨fun h _ _ => scoreRight_inPlace h,within_right_iff g,dark_right_iff g,uniform_right_iff g⟩

def square : Geometry where
  width := 2
  height := 2
  stride := 2
  width_pos := by decide
  height_pos := by decide
  width_le := by decide
  score_fits := by decide

theorem moving_corner_missed : ¬ ∀ (g : Geometry) (cur prev : Picture g), ScoreRight cur prev := by
  intro h
  exact absurd (h square ⟨[0,0,0,100],by decide⟩ ⟨[0,0,0,0],by decide⟩).score (by decide)

end MotionScore

end VideoSurveillance
