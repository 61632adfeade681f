/-
# Proofs.Pattern.Excerpts -- which spans are quoted

Spans are quoted in order of discovery, trimmed and cut, each different one once and none that is empty.
Collecting stops as soon as enough are held, and gives what listing all of them and keeping the first few
gives (`collectExcerpts_eq`): whether an excerpt was met before is a matter of membership, so the order in
which excerpts are kept does not show (`distinctFrom_congr`).

A limit below one does not keep the first span out, since what is held is compared with the limit only
after a span was looked at (`collectExcerpts_of_nonpos`).  Messages ask for two (`messageExcerpts_eq`).
-/
import Deliberation.Feedback.Inflammatory
import Deliberation.Proofs.Distinct
import Deliberation.Proofs.Text.Lines

set_option autoImplicit false

namespace Deliberation

open Text

/-- What a span is quoted as: without its margins, and cut. -/
def excerptOf (maxChars : ℤ) (span : String) : String := cutText maxChars (trim span)

/-- The excerpts of spans that are not empty, in order of discovery. -/
def filledExcerpts (maxChars : ℤ) (spans : List String) : List String :=
  (spans.map (excerptOf maxChars)).filter fun s => !s.isEmpty

/-- The different excerpts of spans in order of discovery, none of them empty. -/
def excerpts (maxChars : ℤ) (spans : List String) : List String :=
  distinct (filledExcerpts maxChars spans)

/-- An excerpt between double quotes. -/
def inQuotes (s : String) : String := "\"" ++ s ++ "\""

variable {limit maxChars : ℤ} {seen : List String} {span : String}

/-! ## Each excerpt once -/

theorem filledExcerpts_cons (span : String) (rest : List String) :
    filledExcerpts maxChars (span :: rest) =
      if (excerptOf maxChars span).isEmpty then filledExcerpts maxChars rest
      else excerptOf maxChars span :: filledExcerpts maxChars rest := by
  simp only [filledExcerpts, List.map_cons, List.filter_cons]
  cases (excerptOf maxChars span).isEmpty <;> rfl

/-! ## One span after the other -/

/-- While there is room, a span without a new excerpt is passed over. -/
theorem collectExcerpts_cons_of_old (room : (seen.length : ℤ) < limit)
    (old : ((excerptOf maxChars span).isEmpty || seen.contains (excerptOf maxChars span)) = true)
    (rest : List String) :
    collectExcerpts limit maxChars (span :: rest) seen = collectExcerpts limit maxChars rest seen := by
  rw [collectExcerpts, ← excerptOf, if_pos old, if_neg (Int.not_le.2 room)]

/-- A new excerpt is kept, and may be the last one. -/
theorem collectExcerpts_cons_of_new
    (new : ((excerptOf maxChars span).isEmpty || seen.contains (excerptOf maxChars span)) = false)
    (rest : List String) :
    collectExcerpts limit maxChars (span :: rest) seen =
      if limit ≤ (seen ++ [excerptOf maxChars span]).length then seen ++ [excerptOf maxChars span]
      else collectExcerpts limit maxChars rest (seen ++ [excerptOf maxChars span]) := by
  rw [collectExcerpts, ← excerptOf, if_neg (Bool.eq_false_iff.1 new)]

/-- **Stopping early is taking the first few.**  While there is room, collecting gives the excerpts held
followed by the different new ones, up to the limit. -/
theorem collectExcerpts_eq {spans : List String} (room : (seen.length : ℤ) < limit) :
    collectExcerpts limit maxChars spans seen =
      (seen ++ distinctFrom seen (filledExcerpts maxChars spans)).take limit.toNat := by
  induction spans generalizing seen with
  | nil =>
      rw [collectExcerpts, filledExcerpts, List.map_nil, List.filter_nil, distinctFrom, List.append_nil,
        List.take_of_length_le (by omega)]
  | cons span rest ih =>
      rw [filledExcerpts_cons]
      cases empty : (excerptOf maxChars span).isEmpty with
      | true => rw [collectExcerpts_cons_of_old room (by rw [empty]; rfl), ih room, if_pos rfl]
      | false =>
          rw [if_neg Bool.false_ne_true, distinctFrom]
          cases met : seen.contains (excerptOf maxChars span) with
          | true =>
              rw [collectExcerpts_cons_of_old room (by rw [met, Bool.or_true]), ih room, if_pos rfl]
          | false =>
              rw [collectExcerpts_cons_of_new (by rw [empty, met]; rfl), if_neg Bool.false_ne_true]
              split_ifs with enough
              · have full : limit.toNat = (seen ++ [excerptOf maxChars span]).length := by
                  simp only [List.length_append, List.length_singleton] at enough ⊢
                  omega
                rw [full, List.append_cons seen _ (distinctFrom _ _), List.take_left]
              · have same (s : String) : s ∈ seen ++ [excerptOf maxChars span] ↔
                    s ∈ excerptOf maxChars span :: seen := by simp [or_comm]
                rw [ih (Int.not_le.1 enough), distinctFrom_congr same, List.append_assoc,
                  List.singleton_append]

/-- Where nothing is asked for, the first span is looked at all the same, and no other one. -/
theorem collectExcerpts_of_nonpos (none : limit ≤ 0) (spans : List String) :
    collectExcerpts limit maxChars spans [] = excerpts maxChars (spans.take 1) := by
  cases spans with
  | nil => rfl
  | cons span rest =>
      have enough (held : List String) : limit ≤ (held.length : ℤ) := by omega
      rw [collectExcerpts, ← excerptOf, if_pos (enough _), List.take_succ_cons, List.take_zero, excerpts,
        filledExcerpts_cons]
      cases (excerptOf maxChars span).isEmpty <;> simp [filledExcerpts, distinct, distinctFrom]

/-! ## Quotes -/

theorem quotedExcerpts_of_pos (some : 1 ≤ limit) (found : List RuleMatch) :
    quotedExcerpts found limit maxChars =
      ((excerpts maxChars (found.flatMap RuleMatch.spans)).take limit.toNat).map inQuotes := by
  have room : (([] : List String).length : ℤ) < limit := some
  rw [quotedExcerpts, collectExcerpts_eq room, List.nil_append]
  rfl

theorem quotedExcerpts_of_nonpos (none : limit ≤ 0) (found : List RuleMatch) :
    quotedExcerpts found limit maxChars =
      (excerpts maxChars ((found.flatMap RuleMatch.spans).take 1)).map inQuotes := by
  rw [quotedExcerpts, collectExcerpts_of_nonpos none]
  rfl

/-- A message quotes the first two different excerpts. -/
theorem messageExcerpts_eq (found : List RuleMatch) : messageExcerpts found =
    ((excerpts 120 (found.flatMap RuleMatch.spans)).take 2).map inQuotes :=
  quotedExcerpts_of_pos (by decide) found

/-- **The first different excerpts are quoted**, as many as the limit says or all, wherever at least one is
asked for.  Where none is, the first span alone is quoted if anything is left of it. -/
theorem quotes_first_excerpts (found : List RuleMatch) (limit maxChars : ℤ) :
    (1 ≤ limit →
      quotedExcerpts found limit maxChars =
          ((excerpts maxChars (found.flatMap RuleMatch.spans)).take limit.toNat).map inQuotes ∧
        ((quotedExcerpts found limit maxChars).length : ℤ) ≤ limit) ∧
    (limit ≤ 0 → quotedExcerpts found limit maxChars =
      (excerpts maxChars ((found.flatMap RuleMatch.spans).take 1)).map inQuotes) := by
  refine ⟨fun some => ⟨quotedExcerpts_of_pos some found, ?_⟩,
    fun none => quotedExcerpts_of_nonpos none found⟩
  rw [quotedExcerpts_of_pos some, List.length_map, List.length_take]
  omega

/-- Two spans that differ only behind the cut are quoted once, and the next rule's span is the second. -/
theorem cut_repeats_quoted_once :
    (1 : ℤ) ≤ 2 ∧
    quotedExcerpts (matchTable "you are stupid, you are dumb. Shut up!" Inflammatory.rules) 2 3 =
      ["\"you\"", "\"Shu\""] ∧
    (0 : ℤ) ≤ 0 ∧
    quotedExcerpts (matchTable "you are stupid, you are dumb. Shut up!" Inflammatory.rules) 0 3 =
      ["\"you\""] := by
  let found := matchTable "you are stupid, you are dumb. Shut up!" Inflammatory.rules
  have two := ((quotes_first_excerpts found 2 3).1 (by decide)).1
  have none := (quotes_first_excerpts found 0 3).2 (by decide)
  exact ⟨by decide, two.trans (by decide +kernel), by decide, none.trans (by decide +kernel)⟩

/-- A limit of nothing is exceeded by a first span that is not blank. -/
theorem zero_limit_quotes_one :
    ¬∀ (found : List RuleMatch) (limit maxChars : ℤ), 0 ≤ limit → 1 ≤ maxChars →
      ((quotedExcerpts found limit maxChars).length : ℤ) ≤ limit := by
  intro within
  have none := within (matchTable "Shut up!" Inflammatory.rules) 0 120 (by decide) (by decide)
  revert none
  decide +kernel

end Deliberation
