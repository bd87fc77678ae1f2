import PageMerge.Proofs.Json.ReadBack
import PageMerge.Upload.Outcome

/-!
# Outcomes in JSON

What is written of outcomes and of their summary stands for them: reading it gives them back. The
counters of a summary are numbers of 64 bits.

## Main definitions

* `Value.list?`: the items of an array, if each of them can be read
* `Tally.IsMachineSized`: counters of 64 bits

## Main results

* `RowOutcome.ofJson?_toJson`, `Tally.ofJson?_toJson`: outcomes and summaries are read back
* `RowOutcome.fits_toJson`, `Tally.fits_toJson`: what is written of them can be read back from bytes
-/

namespace PageMerge

open PageMerge.Json (Value)

/-- The items of an array, if each of them can be read. -/
def Json.Value.list? {α : Type} (read : Value → Option α) (value : Value) : Option (List α) :=
  value.items?.bind (List.mapM read)

/-- Items that are read back are read back from their array. -/
theorem Json.list?_array_map {α : Type} {read : Value → Option α} {write : α → Value}
    (h : ∀ a, read (write a) = some a) (items : List α) :
    (Value.array (items.map write)).list? read = some items := by
  change (items.map write).mapM read = some items
  induction items with
  | nil => rfl
  | cons a items ih =>
    rw [List.map_cons, List.mapM_cons, h, ih]
    rfl

namespace Upload

theorem FailedCall.ofJson?_toJson (stage : FailedCall) :
    FailedCall.ofJson? stage.toJson = some stage := by
  cases stage <;> rfl

theorem Outcome.ofJson?_toJson (outcome : Outcome) :
    Outcome.ofJson? outcome.toJson = some outcome := by
  cases outcome with
  | failed stage message => cases stage <;> rfl
  | _ => rfl

theorem RowOutcome.ofJson?_toJson (row : RowOutcome) :
    RowOutcome.ofJson? row.toJson = some row := by
  change (Outcome.ofJson? row.outcome.toJson).bind _ = some row
  rw [row.outcome.ofJson?_toJson]
  rfl

/-- All counters of a summary are numbers of 64 bits. -/
structure Tally.IsMachineSized (summary : Tally) : Prop where
  total : summary.total < UInt64.size
  created : summary.created < UInt64.size
  updated : summary.updated < UInt64.size
  skippedExisting : summary.skippedExisting < UInt64.size
  failed : summary.failed < UInt64.size
  notAttempted : summary.notAttempted < UInt64.size

theorem nat64?_nat {n : Nat} (h : n < UInt64.size) : (Value.nat n).nat64? = some n := by
  have hsize : (0 : Int) ≤ n ∧ (n : Int) < UInt64.size := ⟨Int.natCast_nonneg n, Int.ofNat_lt.mpr h⟩
  rw [Value.nat, Value.int, Value.nat64?, if_pos hsize, Int.toNat_natCast]

theorem Tally.optionalText?_optionalText (text : Option String) :
    Tally.optionalText? (.optionalText text) = some text := by
  cases text <;> rfl

theorem Tally.ofJson?_toJson {summary : Tally} (h : summary.IsMachineSized) :
    Tally.ofJson? summary.toJson = some summary := by
  -- Each name stands at one member, and what is read of it is what was written.
  have hread : ∀ name n, n < UInt64.size → summary.toJson.member? name = some (.nat n) →
      (summary.toJson.member? name).bind Value.nat64? = some n := by
    intro name n hn hmember
    rw [hmember, Option.bind_some, nat64?_nat hn]
  have hledger : (summary.toJson.member? "ledger_path").getD .null =
      .optionalText summary.ledgerPath := rfl
  simp only [Tally.ofJson?, hread "total" _ h.total rfl, hread "created" _ h.created rfl,
    hread "updated" _ h.updated rfl, hread "skipped_existing" _ h.skippedExisting rfl,
    hread "failed" _ h.failed rfl, hread "not_attempted" _ h.notAttempted rfl, hledger,
    Tally.optionalText?_optionalText]
  rfl

/-! ### Documents -/

variable (depth : Nat)

theorem FailedCall.fits_toJson (stage : FailedCall) : stage.toJson.Fits depth := .text stage.name

theorem Outcome.fits_toJson (outcome : Outcome) : outcome.toJson.Fits (depth + 2) := by
  cases outcome with
  | failed stage message =>
    have hcontent : Value.Fits (depth + 1)
        (.object [("stage", stage.toJson), ("message", .text message)]) := by
      refine .object ?_
      simp only [List.forall_mem_cons]
      exact ⟨stage.fits_toJson depth, .text message, List.forall_mem_nil _⟩
    refine .object ?_
    simpa only [List.forall_mem_singleton] using hcontent
  | _ => exact .text _

theorem RowOutcome.fits_toJson (row : RowOutcome) : row.toJson.Fits (depth + 3) := by
  refine .object ?_
  simp only [List.forall_mem_cons]
  exact ⟨.text row.rowId, .text row.title, row.outcome.fits_toJson depth, List.forall_mem_nil _⟩

theorem Tally.fits_toJson {summary : Tally} (h : summary.IsMachineSized) :
    summary.toJson.Fits (depth + 1) := by
  have hledger : (Value.optionalText summary.ledgerPath).Fits depth := by
    cases summary.ledgerPath with
    | none => exact .null
    | some path => exact .text path
  refine .object ?_
  simp only [List.forall_mem_cons]
  exact ⟨.nat h.total, .nat h.created, .nat h.updated, .nat h.skippedExisting, .nat h.failed,
    .nat h.notAttempted, hledger, List.forall_mem_nil _⟩

end Upload

end PageMerge
