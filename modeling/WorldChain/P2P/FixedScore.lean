import WorldChain.Lib.Signed
import WorldChain.P2P.Observed

/-! # Scores in machine words

The fanout ranks peers by a moving average over the integers. A node keeps the average in a signed word, and the
samples are as large as the timestamps that peers put into their flashblocks.
-/

namespace WorldChain.P2P

open Signed

/-! ## The average over the integers -/

namespace Score

section

variable {low high current sample window : ℤ} (positive : 1 ≤ window) (isCurrent : low ≤ current ∧ current ≤ high)
  (isSample : low ≤ sample ∧ sample ≤ high)

include positive isCurrent isSample

theorem weighted_between :
    low * window ≤ current * (window - 1) + sample ∧ current * (window - 1) + sample ≤ high * window := by
  have below := mul_le_mul_of_nonneg_right isCurrent.1 (sub_nonneg.mpr positive)
  have above := mul_le_mul_of_nonneg_right isCurrent.2 (sub_nonneg.mpr positive)
  constructor <;> linarith

theorem average_between :
    low ≤ (current * (window - 1) + sample).tdiv window ∧ (current * (window - 1) + sample).tdiv window ≤ high := by
  obtain ⟨below, above⟩ := weighted_between positive isCurrent isSample
  exact tdiv_between (by omega) below above

end

theorem fits_weighted {low high current window : ℤ} (positive : 1 ≤ window) (lowFits : Fits (low * window))
    (highFits : Fits (high * window)) (isCurrent : low ≤ current ∧ current ≤ high) :
    Fits (current * (window - 1)) := by
  have below := mul_le_mul_of_nonneg_right isCurrent.1 (by omega : 0 ≤ window)
  have above := mul_le_mul_of_nonneg_right isCurrent.2 (by omega : 0 ≤ window)
  obtain ⟨lowBound, -⟩ := lowFits
  obtain ⟨-, highBound⟩ := highFits
  rcases le_total 0 current with nonneg | nonpos
  · have := mul_nonneg nonneg (sub_nonneg.mpr positive)
    constructor <;> linarith
  · have := mul_nonpos_of_nonpos_of_nonneg nonpos (sub_nonneg.mpr positive)
    constructor <;> linarith

end Score

/-! ## The average in a word -/

/-- A score as a node keeps it. -/
structure FixedScore where
  value : Option Int64
  window : Int64
  positive : 1 ≤ window.toInt
deriving DecidableEq

namespace FixedScore

theorem one_le_max (window : Int64) : 1 ≤ (max window 1).toInt := by
  rw [toInt_max]
  exact le_max_right ..

def new (window : Int64) : FixedScore := ⟨none, max window 1, one_le_max window⟩

def record (score : FixedScore) (sample : Int64) : FixedScore :=
  { score with
    value := some (match score.value with
      | some current => (current * (score.window - 1) + sample) / score.window
      | none => sample) }

def exactResults (score : FixedScore) (sample : Int64) : List ℤ :=
  match score.value with
  | some current =>
    let weight := score.window.toInt - 1
    let weighted := current.toInt * weight
    let sum := weighted + sample.toInt
    [weight, weighted, sum, sum.tdiv score.window.toInt]
  | none => []

/-- A build with overflow checks panics. -/
def Overflows (score : FixedScore) (sample : Int64) : Prop := ∃ result ∈ score.exactResults sample, ¬ Fits result

instance (score : FixedScore) (sample : Int64) : Decidable (score.Overflows sample) :=
  inferInstanceAs (Decidable (∃ result ∈ score.exactResults sample, ¬ Fits result))

/-- The score of the fanout. -/
def toScore (score : FixedScore) : Score := ⟨score.value.map Int64.toInt, score.window.toInt, score.positive⟩

variable {score : FixedScore} {current sample : Int64}

theorem fits_weight (score : FixedScore) : Fits (score.window.toInt - 1) :=
  (fits_toInt 0).of_between (fits_toInt score.window) (sub_nonneg.mpr score.positive) (sub_le_self _ zero_le_one)

theorem not_overflows_iff (isCurrent : score.value = some current) :
    ¬ score.Overflows sample ↔ Fits (current.toInt * (score.window.toInt - 1)) ∧
      Fits (current.toInt * (score.window.toInt - 1) + sample.toInt) := by
  simp only [Overflows, exactResults, isCurrent, List.forall_mem_cons, not_exists, not_and, not_not,
    score.fits_weight, true_and, List.not_mem_nil, false_implies, implies_true, and_true]
  constructor
  · rintro ⟨weighted, sum, -⟩
    exact ⟨weighted, sum⟩
  · rintro ⟨weighted, sum⟩
    exact ⟨weighted, sum, sum.tdiv score.positive⟩

theorem toScore_record (exact : ¬ score.Overflows sample) :
    (score.record sample).toScore = score.toScore.record sample.toInt := by
  cases isCurrent : score.value with
  | none => simp [toScore, record, Score.record, isCurrent]
  | some current =>
    obtain ⟨weightedFits, sumFits⟩ := (not_overflows_iff isCurrent).mp exact
    have isWeight : (score.window - 1).toInt = score.window.toInt - 1 := toInt_sub score.fits_weight
    have isWeighted : (current * (score.window - 1)).toInt = current.toInt * (score.window.toInt - 1) := by
      rw [← isWeight] at weightedFits ⊢
      exact toInt_mul weightedFits
    have isSum : (current * (score.window - 1) + sample).toInt =
        current.toInt * (score.window.toInt - 1) + sample.toInt := by
      rw [← isWeighted] at sumFits ⊢
      exact toInt_add sumFits
    have isAverage : ((current * (score.window - 1) + sample) / score.window).toInt =
        (current.toInt * (score.window.toInt - 1) + sample.toInt).tdiv score.window.toInt := by
      rw [← isSum] at sumFits ⊢
      exact toInt_div (sumFits.tdiv score.positive)
    simp [toScore, record, Score.record, isCurrent, isAverage]

theorem value_record (isCurrent : score.value = some current) (exact : ¬ score.Overflows sample) :
    ∃ value, (score.record sample).value = some value ∧
      value.toInt = (current.toInt * (score.window.toInt - 1) + sample.toInt).tdiv score.window.toInt := by
  refine ⟨_, rfl, Option.some.inj ?_⟩
  have same := congrArg Score.value (toScore_record exact)
  simpa [toScore, record, Score.record, isCurrent] using same

end FixedScore

/-! ## Samples -/

inductive Sample
  | latency (now flashblockTimestamp : Int64)
  | missed
deriving DecidableEq

namespace Sample

def value : Sample → Int64
  | latency now flashblockTimestamp => now - flashblockTimestamp
  | missed => .ofInt missedFlashblockPenaltyNs

def Overflows : Sample → Prop
  | latency now flashblockTimestamp => ¬ Fits (now.toInt - flashblockTimestamp.toInt)
  | missed => False

instance : (sample : Sample) → Decidable sample.Overflows
  | latency .. => inferInstanceAs (Decidable (¬ Fits _))
  | missed => inferInstanceAs (Decidable False)

end Sample

def Between (samples : List Sample) (value : Int64) : Prop :=
  (∃ low ∈ samples, low.value ≤ value) ∧ ∃ high ∈ samples, value ≤ high.value

instance (samples : List Sample) (value : Int64) : Decidable (Between samples value) :=
  inferInstanceAs (Decidable (_ ∧ _))

theorem Between.widen {samples : List Sample} {value : Int64} (between : Between samples value) (sample : Sample) :
    (∃ low ∈ samples ++ [sample], low.value.toInt ≤ value.toInt ∧ low.value.toInt ≤ sample.value.toInt) ∧
      ∃ high ∈ samples ++ [sample], value.toInt ≤ high.value.toInt ∧ sample.value.toInt ≤ high.value.toInt := by
  obtain ⟨⟨low, lowIn, isLow⟩, high, highIn, isHigh⟩ := between
  rw [Int64.le_iff_toInt_le] at isLow isHigh
  have isLast : sample ∈ samples ++ [sample] := List.mem_append_right _ (List.mem_singleton_self _)
  constructor
  · rcases le_total low.value.toInt sample.value.toInt with below | above
    · exact ⟨low, List.mem_append_left _ lowIn, isLow, below⟩
    · exact ⟨sample, isLast, above.trans isLow, le_rfl⟩
  · rcases le_total sample.value.toInt high.value.toInt with below | above
    · exact ⟨high, List.mem_append_left _ highIn, isHigh, below⟩
    · exact ⟨sample, isLast, isHigh.trans above, le_rfl⟩

namespace FixedScore

variable {score : FixedScore}

/-- The score after all samples. -/
def recordAll (window : Int64) (samples : List Sample) : FixedScore :=
  samples.foldl (fun score sample => score.record sample.value) (new window)

/-- At every sample of the sequence, no operation overflows and the score then lies between the samples so far. -/
def Sound (window : Int64) (samples : List Sample) : Prop :=
  ∀ recorded sample, recorded ++ [sample] <+: samples →
    ¬ sample.Overflows ∧ ¬ (recordAll window recorded).Overflows sample.value ∧
      ∃ value, (recordAll window (recorded ++ [sample])).value = some value ∧ Between (recorded ++ [sample]) value

theorem recordAll_concat (window : Int64) (samples : List Sample) (sample : Sample) :
    recordAll window (samples ++ [sample]) = (recordAll window samples).record sample.value :=
  List.foldl_concat ..

theorem window_recordAll (window : Int64) (samples : List Sample) :
    (recordAll window samples).window.toInt = max window.toInt 1 := by
  induction samples using List.reverseRecOn with
  | nil => exact toInt_max
  | append_singleton samples sample ih =>
    rw [recordAll_concat]
    exact ih

def Tracks (score : FixedScore) (samples : List Sample) : Prop :=
  (score.value = none ∧ samples = []) ∨ ∃ value, score.value = some value ∧ Between samples value

theorem Tracks.record {samples : List Sample} {sample : Sample} (tracks : score.Tracks samples)
    (fit : ∀ each ∈ samples ++ [sample], Fits (each.value.toInt * score.window.toInt)) :
    ¬ score.Overflows sample.value ∧
      ∃ value, (score.record sample.value).value = some value ∧ Between (samples ++ [sample]) value := by
  obtain ⟨isNone, rfl⟩ | ⟨current, isCurrent, between⟩ := tracks
  · refine ⟨by simp [Overflows, exactResults, isNone], sample.value, by simp [FixedScore.record, isNone], ?_⟩
    exact ⟨⟨sample, List.mem_singleton_self _, Int64.le_refl _⟩, sample, List.mem_singleton_self _, Int64.le_refl _⟩
  · obtain ⟨⟨low, lowIn, lowCurrent, lowSample⟩, high, highIn, highCurrent, highSample⟩ := between.widen sample
    have isSum := Score.weighted_between score.positive ⟨lowCurrent, highCurrent⟩ ⟨lowSample, highSample⟩
    have exact : ¬ score.Overflows sample.value := (not_overflows_iff isCurrent).mpr
      ⟨Score.fits_weighted score.positive (fit low lowIn) (fit high highIn) ⟨lowCurrent, highCurrent⟩,
        (fit low lowIn).of_between (fit high highIn) isSum.1 isSum.2⟩
    obtain ⟨value, isValue, isAverage⟩ := value_record isCurrent exact
    have bounds := Score.average_between score.positive ⟨lowCurrent, highCurrent⟩ ⟨lowSample, highSample⟩
    rw [← isAverage] at bounds
    exact ⟨exact, value, isValue, ⟨low, lowIn, Int64.le_iff_toInt_le.mpr bounds.1⟩,
      high, highIn, Int64.le_iff_toInt_le.mpr bounds.2⟩

theorem tracks_recordAll {window : Int64} {samples : List Sample}
    (fit : ∀ each ∈ samples, Fits (each.value.toInt * max window.toInt 1)) :
    (recordAll window samples).Tracks samples := by
  induction samples using List.reverseRecOn with
  | nil => exact .inl ⟨rfl, rfl⟩
  | append_singleton samples sample ih =>
    rw [recordAll_concat]
    refine .inr ((ih fun each member => fit each (List.mem_append_left _ member)).record ?_).2
    rwa [window_recordAll]

/-- All sequences of allowed samples are sound exactly if no latency overflows and each sample times the window fits. -/
theorem sound_iff (window : Int64) (allowed : Sample → Prop) :
    (∀ samples, (∀ sample ∈ samples, allowed sample) → Sound window samples) ↔
      ∀ sample, allowed sample → ¬ sample.Overflows ∧ Fits (sample.value.toInt * max window.toInt 1) := by
  constructor
  · intro sound sample isAllowed
    -- The same sample twice: the sum of the second step is the sample times the window.
    obtain ⟨latency, step, -⟩ := sound [sample, sample] (by simpa using isAllowed) [sample] sample List.prefix_rfl
    have isFirst : (recordAll window [sample]).value = some sample.value := rfl
    have sumFits := ((not_overflows_iff isFirst).mp step).2
    rw [window_recordAll] at sumFits
    refine ⟨latency, ?_⟩
    convert sumFits using 1
    ring
  · intro fit samples areAllowed recorded sample isPrefix
    have good (each : Sample) (member : each ∈ recorded ++ [sample]) :=
      fit each (areAllowed each (isPrefix.subset member))
    have tracks : (recordAll window recorded).Tracks recorded :=
      tracks_recordAll fun each member => (good each (List.mem_append_left _ member)).2
    refine ⟨(good sample (by simp)).1, ?_⟩
    rw [recordAll_concat]
    apply tracks.record
    rw [window_recordAll]
    exact fun each member => (good each member).2

theorem ordinary_samples_are_sound :
    Sound 1000 [.latency 1800000000200000000 1800000000000000000, .missed] := by
  refine (sound_iff 1000 (· ∈ [.latency 1800000000200000000 1800000000000000000, .missed])).mpr ?_ _ fun _ => id
  decide +kernel

def epochSample : Sample := .latency 1800000000000000000 0

theorem epoch_timestamps_overflow :
    ¬ Sound 1000 [epochSample, epochSample] ∧
      (recordAll 1000 [epochSample]).Overflows epochSample.value ∧
      (recordAll 1000 [epochSample, epochSample]).value = some (-7780919223536058) ∧
      ¬ Between [epochSample, epochSample] (-7780919223536058) := by
  have overflows : (recordAll 1000 [epochSample]).Overflows epochSample.value := by decide +kernel
  refine ⟨fun sound => ?_, overflows, by decide +kernel, by decide +kernel⟩
  exact (sound [epochSample] epochSample List.prefix_rfl).2.1 overflows

end FixedScore

end WorldChain.P2P
