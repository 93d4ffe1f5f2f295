import CkbLightClient.Core.Header
import Mathlib.Data.List.Sort
import Mathlib.Data.List.Chain

/-!
# CkbLightClient — the FlyClient sampling loop

`check_if_response_is_matched` ends (when the response has sampled headers) with a
greedy loop: the requested difficulty samples below the first last-n header are
consumed in ascending order, each sampled header must take at least one of them,
and the samples it does not take must lie above the parent of the first last-n
header. This module models that loop and proves that it decides exactly the
declarative coverage condition of FlyClient sampling:

* `consumeSamples` — the `while let` loop for one header; `consumeSamples_true` and
  `consumeSamples_false` say what it computes: once a sample is found, it drops every
  sample up to the header's total difficulty.
* `checkSampledHeaders`, `checkRemainingSamples` — the `for` loop and the final check.
* `Coverage`, `Ascending` — the declarative side.
* `sampling_sound`, `sampling_complete` — the loop accepts only covered responses, and
  accepts every covered response whose intervals are ascending.
-/

namespace CkbLightClient

/-- The `while let Some(diff) = difficulties.first()` loop for one sampled header with
total difficulties `parent` and `current`: the samples left, and `is_valid`. -/
def consumeSamples (parent current : U256) : List U256 → Bool → List U256 × Bool
  | [], isValid => ([], isValid)
  | diff :: rest, true =>
      if diff ≤ current then consumeSamples parent current rest true else (diff :: rest, true)
  | diff :: rest, false =>
      if parent < diff ∧ diff ≤ current then consumeSamples parent current rest true
      else (diff :: rest, false)

/-- The `for item in &headers[reorg_count..reorg_count + sampled_count]` loop: each
sampled header must be valid, i.e. take at least one sample. Returns the samples left. -/
def checkSampledHeaders : List VerifiableHeader → List U256 → Except (Exit Status) (List U256)
  | [], difficulties => .ok difficulties
  | item :: items, difficulties =>
      match consumeSamples item.parentTotalDifficulty item.totalDifficulty difficulties false with
      | (rest, true) => checkSampledHeaders items rest
      | (_, false) => .error (.err StatusCode.invalidSamples.status)

/-- The check after the loop: the first unmatched sample must be above the parent total
difficulty of the first last-n header, or a block between them is missing. -/
def checkRemainingSamples (firstLastN : VerifiableHeader) : List U256 → Except (Exit Status) Unit
  | [] => .ok ()
  | next :: _ =>
      if next ≤ firstLastN.parentTotalDifficulty then
        .error (.err StatusCode.invalidSamples.status)
      else .ok ()

/-! ## What the loop computes -/

/-- The sample `d` falls in block `h`: `parent_td(h) < d ≤ td(h)`. -/
def Covers (h : VerifiableHeader) (d : U256) : Prop :=
  h.parentTotalDifficulty < d ∧ d ≤ h.totalDifficulty

instance (h : VerifiableHeader) (d : U256) : Decidable (Covers h d) :=
  inferInstanceAs (Decidable (_ ∧ _))

/-- The first remaining sample falls in block `h`. -/
def headCovered (h : VerifiableHeader) : List U256 → Bool
  | [] => false
  | d :: _ => decide (Covers h d)

/-- Once `is_valid` is set, the loop drops every sample up to `current`. -/
theorem consumeSamples_true (parent current : U256) (ds : List U256) :
    consumeSamples parent current ds true =
      (ds.dropWhile (fun d => decide (d ≤ current)), true) := by
  induction ds with
  | nil => rfl
  | cons d ds ih => by_cases h : d ≤ current <;> simp [consumeSamples, h, ih]

/-- From `is_valid = false`, the loop either finds the first sample in the block and then
drops every sample up to `current`, or stops at once. -/
theorem consumeSamples_false (h : VerifiableHeader) (ds : List U256) :
    consumeSamples h.parentTotalDifficulty h.totalDifficulty ds false =
      if headCovered h ds then (ds.dropWhile (fun d => decide (d ≤ h.totalDifficulty)), true)
      else (ds, false) := by
  cases ds with
  | nil => rfl
  | cons d ds =>
    simp only [consumeSamples, headCovered, Covers, decide_eq_true_eq]
    split_ifs with hc
    · rw [consumeSamples_true, List.dropWhile_cons_of_pos (by simpa using hc.2)]
    · rfl

/-- One round of the `for` loop. -/
theorem checkSampledHeaders_cons (h : VerifiableHeader) (hs : List VerifiableHeader)
    (ds : List U256) :
    checkSampledHeaders (h :: hs) ds =
      if headCovered h ds then
        checkSampledHeaders hs (ds.dropWhile (fun d => decide (d ≤ h.totalDifficulty)))
      else .error (.err StatusCode.invalidSamples.status) := by
  rw [checkSampledHeaders, consumeSamples_false]
  cases headCovered h ds <;> rfl

theorem checkRemainingSamples_eq_ok {F : VerifiableHeader} {ds : List U256} :
    checkRemainingSamples F ds = .ok () ↔ ∀ d ∈ ds.head?, F.parentTotalDifficulty < d := by
  cases ds with
  | nil => simp [checkRemainingSamples]
  | cons d ds =>
    by_cases h : d ≤ F.parentTotalDifficulty <;>
      simp_all [checkRemainingSamples, not_le.mp]

/-! ## Sorted sample lists -/

section Sorted

variable {ds : List U256} {c d : U256}

/-- A sample not below `c` survives `dropWhile (· ≤ c)`. -/
theorem mem_dropWhile_of_not_le (hd : d ∈ ds) (hc : ¬ d ≤ c) :
    d ∈ ds.dropWhile (fun x => decide (x ≤ c)) := by
  rw [← List.takeWhile_append_dropWhile (fun x => decide (x ≤ c)) ds, List.mem_append] at hd
  exact hd.resolve_left fun ht => hc (by simpa using List.mem_takeWhile_imp ht)

/-- What `dropWhile (· ≤ c)` removes from a list is below `c`. -/
theorem le_of_mem_not_dropWhile (hd : d ∈ ds)
    (hn : d ∉ ds.dropWhile (fun x => decide (x ≤ c))) : d ≤ c := by
  by_contra h
  exact hn (mem_dropWhile_of_not_le hd h)

/-- On a strictly increasing list, `dropWhile (· ≤ c)` keeps only samples above `c`. -/
theorem lt_of_mem_dropWhile (hs : ds.Sorted (· < ·))
    (hd : d ∈ ds.dropWhile (fun x => decide (x ≤ c))) : c < d := by
  induction ds with
  | nil => simp at hd
  | cons x xs ih =>
    by_cases hx : x ≤ c
    · rw [List.dropWhile_cons_of_pos (by simpa using hx)] at hd
      exact ih hs.of_cons hd
    · rw [List.dropWhile_cons_of_neg (by simpa using hx), List.mem_cons] at hd
      rcases hd with rfl | hd
      · exact lt_of_not_le hx
      · exact lt_trans (lt_of_not_le hx) (List.rel_of_sorted_cons hs d hd)

/-- The head of a strictly increasing list is its least element. -/
theorem head_le_of_mem (hs : (c :: ds).Sorted (· < ·)) (hd : d ∈ c :: ds) : c ≤ d := by
  rcases List.mem_cons.mp hd with rfl | hd
  · exact le_rfl
  · exact le_of_lt (List.rel_of_sorted_cons hs d hd)

theorem sorted_dropWhile (hs : ds.Sorted (· < ·)) (p : U256 → Bool) :
    (ds.dropWhile p).Sorted (· < ·) :=
  hs.sublist (List.dropWhile_sublist p)

end Sorted

theorem headCovered_eq_true {h : VerifiableHeader} {ds : List U256} :
    headCovered h ds = true ↔ ∃ d rest, ds = d :: rest ∧ Covers h d := by
  cases ds <;> simp [headCovered]

/-- Every sample left after the loop is above `F`'s parent when the first one is. -/
theorem checkRemainingSamples_eq_ok_iff {F : VerifiableHeader} {ds : List U256}
    (hs : ds.Sorted (· < ·)) :
    checkRemainingSamples F ds = .ok () ↔ ∀ d ∈ ds, F.parentTotalDifficulty < d := by
  rw [checkRemainingSamples_eq_ok]
  cases ds with
  | nil => simp
  | cons c ds =>
    simp only [List.head?_cons, Option.mem_def, Option.some.injEq, forall_eq']
    exact ⟨fun hc d hd => lt_of_lt_of_le hc (head_le_of_mem hs hd),
      fun h => h c (List.mem_cons_self _ _)⟩

/-! ## The coverage condition

`Coverage S D F` is the FlyClient condition on the sampled headers `S`, the samples `D`
below the first last-n header `F`, and `F`: every sampled header takes a sample, and
every sample falls in a sampled header or above the parent of `F` (in a block the
response leaves out between the samples and the last-n run). -/

/-- The FlyClient coverage condition. -/
structure Coverage (S : List VerifiableHeader) (D : List U256) (F : VerifiableHeader) : Prop where
  sampled_covered : ∀ h ∈ S, ∃ d ∈ D, Covers h d
  sample_placed : ∀ d ∈ D, (∃ h ∈ S, Covers h d) ∨ F.parentTotalDifficulty < d

/-- The difficulty intervals of `S`, then `F`, are ascending: each ends at or before the
parent total difficulty of the next. -/
def Ascending (S : List VerifiableHeader) (F : VerifiableHeader) : Prop :=
  (S ++ [F]).Chain' fun h h' => h.totalDifficulty ≤ h'.parentTotalDifficulty

/-- In an ascending run of non-empty intervals, every later interval starts after the
first one ends. -/
theorem Ascending.head_le {h F : VerifiableHeader} {S : List VerifiableHeader}
    (hasc : Ascending (h :: S) F)
    (hS : ∀ x ∈ S, x.parentTotalDifficulty ≤ x.totalDifficulty) :
    (∀ x ∈ S, h.totalDifficulty ≤ x.parentTotalDifficulty) ∧
      h.totalDifficulty ≤ F.parentTotalDifficulty := by
  induction S generalizing h with
  | nil => exact ⟨by simp, (List.chain'_cons.mp hasc).1⟩
  | cons x S ih =>
    have hhx : h.totalDifficulty ≤ x.parentTotalDifficulty := (List.chain'_cons.mp hasc).1
    obtain ⟨hxS, hxF⟩ :=
      ih (List.chain'_cons.mp hasc).2 fun y hy => hS y (List.mem_cons_of_mem _ hy)
    have hx : h.totalDifficulty ≤ x.totalDifficulty := hhx.trans (hS x (List.mem_cons_self _ _))
    refine ⟨fun y hy => ?_, hx.trans hxF⟩
    rcases List.mem_cons.mp hy with rfl | hy
    · exact hhx
    · exact hx.trans (hxS y hy)

namespace Coverage

variable {h F : VerifiableHeader} {S : List VerifiableHeader} {D : List U256}

/-- The intervals of covered headers are not empty. -/
theorem nonempty (hcov : Coverage S D F) (x : VerifiableHeader) (hx : x ∈ S) :
    x.parentTotalDifficulty ≤ x.totalDifficulty :=
  have ⟨_, _, hxd⟩ := hcov.sampled_covered x hx
  le_of_lt (lt_of_lt_of_le hxd.1 hxd.2)

/-- Coverage extends back to a header that takes the least sample, with the samples up to
its total difficulty. -/
theorem cons {d₀ : U256} {rest : List U256} (hD : (d₀ :: rest).Sorted (· < ·))
    (hd₀ : Covers h d₀)
    (hcov : Coverage S ((d₀ :: rest).dropWhile fun x => decide (x ≤ h.totalDifficulty)) F) :
    Coverage (h :: S) (d₀ :: rest) F := by
  have hsub := (List.dropWhile_sublist (l := d₀ :: rest)
    (fun x => decide (x ≤ h.totalDifficulty))).subset
  refine ⟨fun x hx => ?_, fun d hd => ?_⟩
  · rcases List.mem_cons.mp hx with rfl | hx
    · exact ⟨d₀, List.mem_cons_self _ _, hd₀⟩
    · obtain ⟨d, hd, hxd⟩ := hcov.sampled_covered x hx
      exact ⟨d, hsub hd, hxd⟩
  · by_cases hkept : d ∈ (d₀ :: rest).dropWhile (fun x => decide (x ≤ h.totalDifficulty))
    · exact (hcov.sample_placed d hkept).imp_left fun ⟨x, hx, hxd⟩ =>
        ⟨x, List.mem_cons_of_mem _ hx, hxd⟩
    · exact .inl ⟨h, List.mem_cons_self _ _, lt_of_lt_of_le hd₀.1 (head_le_of_mem hD hd),
        le_of_mem_not_dropWhile hd hkept⟩

/-- Coverage passes to the other sampled headers once the samples up to the first one's
total difficulty are dropped. -/
theorem tail (hcov : Coverage (h :: S) D F) (hD : D.Sorted (· < ·))
    (hlaterS : ∀ x ∈ S, h.totalDifficulty ≤ x.parentTotalDifficulty) :
    Coverage S (D.dropWhile fun x => decide (x ≤ h.totalDifficulty)) F := by
  refine ⟨fun x hx => ?_, fun e he => ?_⟩
  · obtain ⟨e, he, hxe⟩ := hcov.sampled_covered x (List.mem_cons_of_mem _ hx)
    exact ⟨e, mem_dropWhile_of_not_le he (not_le.mpr (lt_of_le_of_lt (hlaterS x hx) hxe.1)),
      hxe⟩
  · have hgt := lt_of_mem_dropWhile hD he
    rcases hcov.sample_placed e ((List.dropWhile_sublist _).subset he) with ⟨x, hx, hxe⟩ | hF
    · rcases List.mem_cons.mp hx with rfl | hx
      · exact absurd hxe.2 (not_le.mpr hgt)
      · exact .inl ⟨x, hx, hxe⟩
    · exact .inr hF

/-- On ascending intervals the least sample falls in the first sampled header: every
other place for it lies above that header's interval. -/
theorem head_covers {d₀ : U256} {rest : List U256} (hcov : Coverage (h :: S) (d₀ :: rest) F)
    (hD : (d₀ :: rest).Sorted (· < ·))
    (hlaterS : ∀ x ∈ S, h.totalDifficulty ≤ x.parentTotalDifficulty)
    (hlaterF : h.totalDifficulty ≤ F.parentTotalDifficulty) : Covers h d₀ := by
  obtain ⟨d, hdD, hhd⟩ := hcov.sampled_covered h (List.mem_cons_self _ _)
  refine ⟨?_, (head_le_of_mem hD hdD).trans hhd.2⟩
  have hh : h.parentTotalDifficulty < h.totalDifficulty := lt_of_lt_of_le hhd.1 hhd.2
  rcases hcov.sample_placed d₀ (List.mem_cons_self _ _) with ⟨x, hx, hxd⟩ | hF
  · rcases List.mem_cons.mp hx with rfl | hx
    · exact hxd.1
    · exact hh.trans (lt_of_le_of_lt (hlaterS x hx) hxd.1)
  · exact hh.trans (lt_of_le_of_lt hlaterF hF)

end Coverage

/-- **Soundness of the sampling loop.** On strictly increasing samples, a loop that
accepts every sampled header and leaves only samples above `F`'s parent has checked
the coverage condition. -/
theorem sampling_sound {S : List VerifiableHeader} {D R : List U256} {F : VerifiableHeader}
    (hD : D.Sorted (· < ·)) (hloop : checkSampledHeaders S D = .ok R)
    (hrest : checkRemainingSamples F R = .ok ()) : Coverage S D F := by
  induction S generalizing D with
  | nil =>
    obtain rfl : D = R := by simpa [checkSampledHeaders] using hloop
    exact ⟨by simp, fun d hd => .inr ((checkRemainingSamples_eq_ok_iff hD).mp hrest d hd)⟩
  | cons h S ih =>
    rw [checkSampledHeaders_cons] at hloop
    split_ifs at hloop with hc
    obtain ⟨d₀, rest, rfl, hd₀⟩ := headCovered_eq_true.mp hc
    exact .cons hD hd₀ (ih (sorted_dropWhile hD _) hloop)

/-- **Completeness of the sampling loop.** On strictly increasing samples and ascending
intervals, a response that meets the coverage condition passes the loop and the final
check. -/
theorem sampling_complete {S : List VerifiableHeader} {D : List U256} {F : VerifiableHeader}
    (hD : D.Sorted (· < ·)) (hasc : Ascending S F) (hcov : Coverage S D F) :
    ∃ R, checkSampledHeaders S D = .ok R ∧ checkRemainingSamples F R = .ok () := by
  induction S generalizing D with
  | nil =>
    refine ⟨D, rfl, (checkRemainingSamples_eq_ok_iff hD).mpr fun d hd => ?_⟩
    simpa using hcov.sample_placed d hd
  | cons h S ih =>
    obtain ⟨hlaterS, hlaterF⟩ :=
      hasc.head_le fun x hx => hcov.nonempty x (List.mem_cons_of_mem _ hx)
    obtain ⟨d, hdD, -⟩ := hcov.sampled_covered h (List.mem_cons_self _ _)
    obtain ⟨d₀, rest, rfl⟩ : ∃ d₀ rest, D = d₀ :: rest :=
      List.exists_cons_of_ne_nil (List.ne_nil_of_mem hdD)
    obtain ⟨R, hloop, hrest⟩ :=
      ih (sorted_dropWhile hD _) (List.chain'_cons'.mp hasc).2 (hcov.tail hD hlaterS)
    refine ⟨R, ?_, hrest⟩
    rw [checkSampledHeaders_cons,
      if_pos (headCovered_eq_true.mpr ⟨d₀, rest, rfl, hcov.head_covers hD hlaterS hlaterF⟩),
      hloop]

end CkbLightClient
