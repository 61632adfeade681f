/-
# Proofs.Value.RoundTrip -- JSON text is read back as the value

A value is written as a sequence of tokens (`Value.tokens`), whatever the layout, and the lexer makes these
tokens of the text: punctuation and strings end where they end, a word or number where something else begins
(`lexed_json`).  The machine makes the value of the tokens again, each bracket on its stack until it closes
(`run_tokens`).  Kinds come back as their labels (`Value.withLabels`), all else as it was
(`ofJson?_json`).
-/
import Deliberation.Proofs.Number.Texts
import Deliberation.Proofs.Value.Strings

set_option autoImplicit false

namespace Deliberation.Value

/-! ## What can be written -/

/-- The names in a record are distinct and the doubles are data of their format, at every depth. -/
inductive IsData : Value → Prop where
  | null : IsData .null
  | bool (b : Bool) : IsData (.bool b)
  | number {n : Number} (datum : n.IsDatum) : IsData (.number n)
  | text (s : String) : IsData (.text s)
  | kind (k : FeedbackKind) : IsData (.kind k)
  | list {items : List Value} (each : ∀ v ∈ items, IsData v) : IsData (.list items)
  | record {fields : List (String × Value)} (distinct : (fields.map Prod.fst).Nodup)
      (each : ∀ f ∈ fields, IsData f.2) : IsData (.record fields)

mutual

/-- The value with each kind as its label, at every depth. -/
def withLabels : Value → Value
  | .kind k => .text k.label
  | .list items => .list (itemsWithLabels items)
  | .record fields => .record (fieldsWithLabels fields)
  | v => v

def itemsWithLabels : List Value → List Value
  | [] => []
  | v :: vs => withLabels v :: itemsWithLabels vs

def fieldsWithLabels : List (String × Value) → List (String × Value)
  | [] => []
  | (name, v) :: fs => (name, withLabels v) :: fieldsWithLabels fs

end

/-! ## Tokens -/

mutual

/-- The tokens of a value. -/
def tokens : Value → List Token
  | .text s => [.text s]
  | .kind k => [.text k.label]
  | .list [] => [.openList, .closeList]
  | .list (v :: vs) => .openList :: tokens v ++ itemTokens vs ++ [.closeList]
  | .record [] => [.openRecord, .closeRecord]
  | .record (f :: fs) => .openRecord :: fieldTokens f ++ laterFieldTokens fs ++ [.closeRecord]
  | v => [.scalar v]

/-- The tokens of the items after the first. -/
def itemTokens : List Value → List Token
  | [] => []
  | v :: vs => .comma :: tokens v ++ itemTokens vs

/-- The tokens of the fields after the first. -/
def laterFieldTokens : List (String × Value) → List Token
  | [] => []
  | f :: fs => .comma :: fieldTokens f ++ laterFieldTokens fs

def fieldTokens : String × Value → List Token
  | (name, v) => .text name :: .colon :: tokens v

end

/-! ## Lexing -/

/-- What the lexer has made of a text when the text ends. -/
def endTokens? : List Token × Lexing → Option (List Token)
  | (done, .between) => some done.reverse
  | (done, .bare read) => (ofBare? read.reverse).map fun v => (Token.scalar v :: done).reverse
  | _ => none

/-- The tokens that the lexer makes of a text, between tokens and with some already made. -/
def lexed (done : List Token) (cs : List Char) : Option (List Token) :=
  (cs.foldlM lexStep (done, .between)).bind endTokens?

section Lexing

variable {done : List Token} {cs tail : List Char}

theorem lexed_append {made : List Token} (h : cs.foldlM lexStep (done, .between) = some (made, .between))
    (tail : List Char) : lexed done (cs ++ tail) = lexed made tail := by
  rw [lexed, List.foldlM_append, h]
  rfl

theorem lexed_jsonString (s : String) (tail : List Char) :
    lexed done (jsonString s ++ tail) = lexed (.text s :: done) tail :=
  lexed_append (lex_jsonString s) tail

/-- A word or number is not followed by another of its characters. -/
def Stops (tail : List Char) : Prop := ∀ c ∈ tail.head?, isBare c = false

theorem stops_cons {c : Char} (h : isBare c = false) (tail : List Char) : Stops (c :: tail) := by
  simpa [Stops] using h

theorem startToken_of_isBare {c : Char} (h : isBare c = true) :
    startToken done c = some (done, .bare [c]) := by
  unfold startToken
  split
  all_goals first | rfl | (exact absurd h (by decide))

theorem lex_bare {read : List Char} (h : ∀ c ∈ cs, isBare c = true) :
    cs.foldlM lexStep (done, .bare read) = some (done, .bare (cs.reverse ++ read)) := by
  induction cs generalizing read with
  | nil => rfl
  | cons c rest ih =>
      have step : lexStep (done, .bare read) c = some (done, .bare (c :: read)) := by
        simp [lexStep, h c List.mem_cons_self]
      rw [List.foldlM_cons, step]
      simp only [Option.bind_eq_bind, Option.bind_some]
      rw [ih fun d hd => h d (List.mem_cons_of_mem c hd), List.reverse_cons, List.append_assoc]
      rfl

/-- A word or number is one token. -/
theorem lexed_bare {v : Value} (some_ : cs ≠ []) (h : ∀ c ∈ cs, isBare c = true)
    (means : ofBare? cs = some v) (stops : Stops tail) :
    lexed done (cs ++ tail) = lexed (.scalar v :: done) tail := by
  obtain ⟨c, rest, rfl⟩ := List.exists_cons_of_ne_nil some_
  have read : (c :: rest).foldlM lexStep (done, .between) =
      some (done, .bare (c :: rest).reverse) := by
    have begin_ : lexStep (done, .between) c = some (done, .bare [c]) :=
      startToken_of_isBare (h c List.mem_cons_self)
    rw [List.foldlM_cons, begin_]
    simp only [Option.bind_eq_bind, Option.bind_some]
    rw [lex_bare fun d hd => h d (List.mem_cons_of_mem c hd), List.reverse_cons]
  rw [lexed, List.foldlM_append, read]
  simp only [Option.bind_eq_bind, Option.bind_some]
  cases tail with
  | nil =>
      simp [lexed, endTokens?, means]
  | cons d rest' =>
      have bare : isBare d = false := stops d rfl
      have step : lexStep (done, .bare (c :: rest).reverse) d =
          lexStep (.scalar v :: done, .between) d := by
        simp [lexStep, bare, means]
      rw [List.foldlM_cons, step, ← List.foldlM_cons]
      rfl

theorem lexed_word {v : Value} (word : String) (some_ : word.toList ≠ [])
    (h : word.toList.all isBare = true) (means : ofBare? word.toList = some v) (stops : Stops tail) :
    lexed done (word.toList ++ tail) = lexed (.scalar v :: done) tail :=
  lexed_bare some_ (List.all_eq_true.1 h) means stops

/-! ### Layouts -/

theorem lexed_blanks (n : ℕ) (tail : List Char) :
    lexed done (List.replicate n ' ' ++ tail) = lexed done tail := by
  apply lexed_append
  induction n with
  | zero => rfl
  | succ n ih => exact ih

theorem lexed_margin (layout : Layout) (tail : List Char) :
    lexed done (layout.margin ++ tail) = lexed done tail := by
  cases layout with
  | line => rfl
  | indented depth => exact lexed_blanks _ tail

theorem lexed_between (layout : Layout) (tail : List Char) :
    lexed done (layout.between ++ tail) = lexed (.comma :: done) tail := by
  cases layout with
  | line => rfl
  | indented depth => exact lexed_blanks _ tail

theorem stops_between (layout : Layout) (tail : List Char) : Stops (layout.between ++ tail) := by
  cases layout <;> exact stops_cons rfl _

theorem stops_margin (layout : Layout) {tail : List Char} (h : Stops tail) :
    Stops (layout.margin ++ tail) := by
  cases layout with
  | line => exact h
  | indented depth => exact stops_cons rfl _

/-! ### Numbers -/

theorem isBare_of_isNumeric {c : Char} (h : IsNumeric c) : isBare c = true := by
  rcases h with digit | rfl | rfl | rfl | rfl
  · simp [isBare, Char.isAlphanum, digit]
  all_goals rfl

/-- No word begins like a number. -/
theorem ofBare?_of_isNumeral (h : IsNumeral cs) : ofBare? cs = (Number.ofChars? cs).map number := by
  obtain ⟨-, c, rest, digit, same⟩ := h
  have apart (word : List Char) (letters : (word.take 2).any Char.isDigit = false) : cs ≠ word := by
    rintro rfl
    rcases same with rfl | rfl
    all_goals simp [digit] at letters
  unfold ofBare?
  rw [if_neg (apart _ rfl), if_neg (apart _ rfl), if_neg (apart _ rfl), if_neg (apart _ rfl),
    if_neg (apart _ rfl), if_neg (apart _ rfl)]

/-- A number is finite, undefined or infinite. -/
theorem cases_number (n : Number) : n.exact.isFinite = true ∨ n = .real .nan ∨
    ∃ negative, n = .real (.infinite negative) := by
  rcases n with n | (_ | negative | _ | q)
  · exact .inl rfl
  · exact .inr (.inl rfl)
  · exact .inr (.inr ⟨negative, rfl⟩)
  · exact .inl rfl
  · exact .inl rfl

/-- A number is one token, also where it is a word. -/
theorem lexed_number {n : Number} (datum : n.IsDatum) (stops : Stops tail) :
    lexed done ((n.text .json).toList ++ tail) = lexed (.scalar (number n) :: done) tail := by
  rcases cases_number n with isFinite | rfl | ⟨negative, rfl⟩
  · have numeral := Number.isNumeral_text datum isFinite .json
    refine lexed_bare ?_ (fun c hc => isBare_of_isNumeric (numeral.1 c hc)) ?_ stops
    · obtain ⟨-, c, rest, -, same | same⟩ := numeral
      all_goals simp [same]
    · rw [ofBare?_of_isNumeral numeral, Number.ofChars?_text datum isFinite]
      rfl
  · exact lexed_word "NaN" (by simp) rfl rfl stops
  · cases negative
    · exact lexed_word "Infinity" (by simp) rfl rfl stops
    · exact lexed_word "-Infinity" (by simp) rfl rfl stops

end Lexing

/-! ### Values -/

theorem stops_jsonItems (layout : Layout) (vs : List Value) {tail : List Char} (h : Stops tail) :
    Stops (jsonItems layout vs ++ tail) := by
  cases vs with
  | nil => exact h
  | cons v vs =>
      rw [jsonItems, List.append_assoc, List.append_assoc]
      exact stops_between layout _

theorem stops_jsonFields (layout : Layout) (fs : List (String × Value)) {tail : List Char}
    (h : Stops tail) : Stops (jsonFields layout fs ++ tail) := by
  cases fs with
  | nil => exact h
  | cons f fs =>
      rw [jsonFields, List.append_assoc, List.append_assoc]
      exact stops_between layout _

/-- A bracket around what is made into tokens, in either layout. -/
theorem lexed_bracket (layout : Layout) (left right : Char) {opening closing : Token}
    {inside : List Char} {made : List Token}
    (opens : ∀ done cs, lexed done (left :: cs) = lexed (opening :: done) cs)
    (closes : ∀ done cs, lexed done (right :: cs) = lexed (closing :: done) cs)
    (apart : isBare right = false)
    (within : ∀ done tail, Stops tail →
      lexed done (inside ++ tail) = lexed (made.reverse ++ done) tail) (done : List Token)
    (tail : List Char) :
    lexed done (left :: layout.inner.margin ++ inside ++ layout.margin ++ [right] ++ tail) =
      lexed ((opening :: made ++ [closing]).reverse ++ done) tail := by
  have close : Stops (layout.margin ++ right :: tail) := stops_margin layout (stops_cons apart tail)
  simp only [List.append_assoc, List.cons_append, List.nil_append]
  rw [opens, lexed_margin, within _ _ close, lexed_margin, closes]
  simp

mutual

/-- The lexer makes the tokens of a value of its text. -/
theorem lexed_json (layout : Layout) : (v : Value) → v.IsData → ∀ done tail, Stops tail →
    lexed done (json layout v ++ tail) = lexed ((tokens v).reverse ++ done) tail
  | .null, _, done, tail, stops => lexed_word "null" (by simp) rfl rfl stops
  | .bool true, _, done, tail, stops => lexed_word "true" (by simp) rfl rfl stops
  | .bool false, _, done, tail, stops => lexed_word "false" (by simp) rfl rfl stops
  | .number n, .number datum, done, tail, stops => lexed_number datum stops
  | .text s, _, done, tail, _ => lexed_jsonString s tail
  | .kind k, _, done, tail, _ => lexed_jsonString k.label tail
  | .list [], _, done, tail, _ => rfl
  | .list (v :: vs), .list each, done, tail, _ => by
      rw [List.forall_mem_cons] at each
      have within : ∀ done tail, Stops tail →
          lexed done (json layout.inner v ++ jsonItems layout.inner vs ++ tail) =
            lexed ((tokens v ++ itemTokens vs).reverse ++ done) tail := by
        intro done tail stops
        rw [List.append_assoc, lexed_json layout.inner v each.1 _ _ (stops_jsonItems _ _ stops),
          lexed_jsonItems layout.inner vs each.2 _ _ stops, List.reverse_append, List.append_assoc]
      have bracket := lexed_bracket layout '[' ']' (fun _ _ => rfl) (fun _ _ => rfl) rfl within done tail
      rw [json, tokens]
      simpa only [List.append_assoc, List.cons_append] using bracket
  | .record [], _, done, tail, _ => rfl
  | .record (f :: fs), .record _ each, done, tail, _ => by
      rw [List.forall_mem_cons] at each
      have within : ∀ done tail, Stops tail →
          lexed done (jsonField layout.inner f ++ jsonFields layout.inner fs ++ tail) =
            lexed ((fieldTokens f ++ laterFieldTokens fs).reverse ++ done) tail := by
        intro done tail stops
        rw [List.append_assoc, lexed_jsonField layout.inner f each.1 _ _ (stops_jsonFields _ _ stops),
          lexed_jsonFields layout.inner fs each.2 _ _ stops, List.reverse_append, List.append_assoc]
      have bracket := lexed_bracket layout '\x7b' '\x7d' (fun _ _ => rfl) (fun _ _ => rfl) rfl within
        done tail
      rw [json, tokens]
      simpa only [List.append_assoc, List.cons_append] using bracket

theorem lexed_jsonItems (layout : Layout) : (vs : List Value) → (∀ v ∈ vs, v.IsData) →
    ∀ done tail, Stops tail →
    lexed done (jsonItems layout vs ++ tail) = lexed ((itemTokens vs).reverse ++ done) tail
  | [], _, done, tail, _ => rfl
  | v :: vs, each, done, tail, stops => by
      rw [List.forall_mem_cons] at each
      rw [jsonItems, List.append_assoc, List.append_assoc, lexed_between,
        lexed_json layout v each.1 _ _ (stops_jsonItems _ _ stops),
        lexed_jsonItems layout vs each.2 _ _ stops, itemTokens]
      simp

theorem lexed_jsonField (layout : Layout) : (f : String × Value) → f.2.IsData → ∀ done tail, Stops tail →
    lexed done (jsonField layout f ++ tail) = lexed ((fieldTokens f).reverse ++ done) tail
  | (name, v), data, done, tail, stops => by
      have colon (made : List Token) (cs : List Char) :
          lexed made (':' :: ' ' :: cs) = lexed (.colon :: made) cs := rfl
      rw [jsonField, List.append_assoc, lexed_jsonString, List.cons_append, List.cons_append, colon,
        lexed_json layout v data _ _ stops, fieldTokens]
      simp

theorem lexed_jsonFields (layout : Layout) : (fs : List (String × Value)) → (∀ f ∈ fs, f.2.IsData) →
    ∀ done tail, Stops tail →
    lexed done (jsonFields layout fs ++ tail) = lexed ((laterFieldTokens fs).reverse ++ done) tail
  | [], _, done, tail, _ => rfl
  | f :: fs, each, done, tail, stops => by
      rw [List.forall_mem_cons] at each
      rw [jsonFields, List.append_assoc, List.append_assoc, lexed_between,
        lexed_jsonField layout f each.1 _ _ (stops_jsonFields _ _ stops),
        lexed_jsonFields layout fs each.2 _ _ stops, laterFieldTokens]
      simp

end

/-! ## The machine -/

theorem fieldsWithLabels_eq (fs : List (String × Value)) :
    fieldsWithLabels fs = fs.map fun f => (f.1, f.2.withLabels) := by
  induction fs with
  | nil => rfl
  | cons f fs ih => rw [fieldsWithLabels, ih, List.map_cons]

theorem map_fst_fieldsWithLabels (fs : List (String × Value)) :
    (fieldsWithLabels fs).map Prod.fst = fs.map Prod.fst := by
  rw [fieldsWithLabels_eq, List.map_map]
  rfl

/-- A new name goes to the end. -/
theorem setField_of_notMem {name : String} {v : Value} {fields : List (String × Value)}
    (new : name ∉ fields.map Prod.fst) : setField name v fields = fields ++ [(name, v)] := by
  induction fields with
  | nil => rfl
  | cons f fields ih =>
      obtain ⟨n, w⟩ := f
      rw [List.map_cons, List.mem_cons, not_or] at new
      rw [setField, if_neg (Ne.symm new.1), ih new.2]
      rfl

/-- Distinct names all keep their values. -/
theorem ofFields_of_nodup {done : List (String × Value)} (distinct : (done.map Prod.fst).Nodup) :
    ofFields done = record done.reverse := by
  induction done with
  | nil => rfl
  | cons f done ih =>
      rw [List.map_cons, List.nodup_cons] at distinct
      have before := ih distinct.2
      simp only [ofFields, record.injEq] at before ⊢
      rw [List.reverse_cons, List.foldl_append, before, List.foldl_cons, List.foldl_nil,
        setField_of_notMem]
      simpa using distinct.1

section Machine

open Machine

variable {stack : List Frame}

/-- A value may begin here. -/
def Expecting.IsValue : Expecting → Prop
  | .value => True
  | .itemOrClose => True
  | _ => False

theorem step_of_isValue {expecting : Expecting} (h : expecting.IsValue) {token : Token}
    {m : Machine} (opens : begin? stack token = some m) :
    Machine.step ⟨stack, expecting⟩ token = some m := by
  cases expecting with
  | value => exact opens
  | itemOrClose =>
      cases token with
      | closeList => cases opens
      | _ => exact opens
  | _ => exact h.elim

theorem run_cons {m n : Machine} {token : Token} (h : Machine.step m token = some n)
    (rest : List Token) : (token :: rest).foldlM Machine.step m = rest.foldlM Machine.step n := by
  rw [List.foldlM_cons, h]
  rfl

mutual

/-- The machine makes a value of its tokens, and gives it to the innermost bracket. -/
theorem run_tokens : (v : Value) → v.IsData → ∀ stack expecting rest, Expecting.IsValue expecting →
    (tokens v ++ rest).foldlM Machine.step ⟨stack, expecting⟩ =
      rest.foldlM Machine.step (deliver v.withLabels stack)
  | .null, _, stack, _, rest, h => run_cons (step_of_isValue h rfl) rest
  | .bool b, _, stack, _, rest, h => run_cons (step_of_isValue h rfl) rest
  | .number n, _, stack, _, rest, h => run_cons (step_of_isValue h rfl) rest
  | .text s, _, stack, _, rest, h => run_cons (step_of_isValue h rfl) rest
  | .kind k, _, stack, _, rest, h => run_cons (step_of_isValue h rfl) rest
  | .list [], _, stack, _, rest, h => (run_cons (step_of_isValue h rfl) _).trans (run_cons rfl rest)
  | .list (v :: vs), .list each, stack, _, rest, h => by
      rw [List.forall_mem_cons] at each
      rw [tokens]
      simp only [List.append_assoc, List.cons_append, List.nil_append]
      rw [run_cons (step_of_isValue h rfl), run_tokens v each.1 _ _ _ (by trivial), deliver,
        run_itemTokens vs each.2, withLabels, itemsWithLabels]
      simp
  | .record [], _, stack, _, rest, h => (run_cons (step_of_isValue h rfl) _).trans (run_cons rfl rest)
  | .record (f :: fs), .record distinct each, stack, _, rest, h => by
      rw [List.forall_mem_cons] at each
      have names : (((fieldsWithLabels fs).reverse ++ [(f.1, f.2.withLabels)]).map Prod.fst).Nodup := by
        rw [← List.nodup_reverse]
        simpa [List.map_reverse, map_fst_fieldsWithLabels] using distinct
      rw [tokens]
      simp only [List.append_assoc, List.cons_append, List.nil_append]
      rw [run_cons (step_of_isValue h rfl), run_fieldTokens f each.1 _ _ _ _ (.inl rfl),
        run_laterFieldTokens fs each.2, ofFields_of_nodup names, withLabels, fieldsWithLabels]
      simp

theorem run_itemTokens : (vs : List Value) → (∀ v ∈ vs, v.IsData) → ∀ done stack rest,
    (itemTokens vs ++ Token.closeList :: rest).foldlM Machine.step ⟨.items done :: stack, .separator⟩ =
      rest.foldlM Machine.step (deliver (list (done.reverse ++ itemsWithLabels vs)) stack)
  | [], _, done, stack, rest => by
      rw [itemTokens, List.nil_append, itemsWithLabels, List.append_nil]
      exact run_cons rfl rest
  | v :: vs, each, done, stack, rest => by
      rw [List.forall_mem_cons] at each
      rw [itemTokens]
      simp only [List.append_assoc, List.cons_append]
      rw [run_cons (n := ⟨.items done :: stack, .value⟩) rfl, run_tokens v each.1 _ _ _ (by trivial),
        deliver, run_itemTokens vs each.2, itemsWithLabels]
      simp

theorem run_fieldTokens : (f : String × Value) → f.2.IsData → ∀ done stack expecting rest,
    (expecting = .nameOrClose done ∨ expecting = .name done) →
    (fieldTokens f ++ rest).foldlM Machine.step ⟨stack, expecting⟩ =
      rest.foldlM Machine.step
        ⟨.fields ((f.1, f.2.withLabels) :: done) f.1 :: stack, .separator⟩
  | (name, v), data, done, stack, expecting, rest, h => by
      have first : Machine.step ⟨stack, expecting⟩ (.text name) = some ⟨stack, .colon done name⟩ := by
        rcases h with rfl | rfl <;> rfl
      rw [fieldTokens, List.cons_append, run_cons first, List.cons_append, run_cons rfl,
        run_tokens v data _ _ _ (by trivial)]
      rfl

theorem run_laterFieldTokens : (fs : List (String × Value)) → (∀ f ∈ fs, f.2.IsData) →
    ∀ done name stack rest,
    (laterFieldTokens fs ++ Token.closeRecord :: rest).foldlM Machine.step
        ⟨.fields done name :: stack, .separator⟩ =
      rest.foldlM Machine.step (deliver (ofFields ((fieldsWithLabels fs).reverse ++ done)) stack)
  | [], _, done, name, stack, rest => run_cons rfl rest
  | f :: fs, each, done, name, stack, rest => by
      rw [List.forall_mem_cons] at each
      rw [laterFieldTokens]
      simp only [List.append_assoc, List.cons_append]
      rw [run_cons (n := ⟨stack, .name done⟩) rfl, run_fieldTokens f each.1 _ _ _ _ (.inr rfl),
        run_laterFieldTokens fs each.2, fieldsWithLabels]
      simp

end

end Machine

/-! ## The round trip -/

theorem isPrinted_of_isNumeric {c : Char} (h : IsNumeric c) : IsPrinted c := by
  rcases h with digit | rfl | rfl | rfl | rfl
  · rw [Char.isDigit_iff_toNat] at digit
    exact ⟨le_trans (by decide) digit.1, digit.2.trans_lt (by decide)⟩
  all_goals decide

theorem isPrinted_number {n : Number} (datum : n.IsDatum) :
    ∀ c ∈ (n.text .json).toList, IsPrinted c := by
  rcases cases_number n with isFinite | rfl | ⟨negative, rfl⟩
  · exact fun c hc => isPrinted_of_isNumeric ((Number.isNumeral_text datum isFinite .json).1 c hc)
  · exact isPrinted_of_all rfl
  · cases negative
    · exact isPrinted_of_all rfl
    · exact isPrinted_of_all rfl

mutual

/-- On one line a value is printable ASCII. -/
theorem isPrinted_json : (v : Value) → v.IsData → ∀ c ∈ json .line v, IsPrinted c
  | .null, _ => isPrinted_of_all rfl
  | .bool true, _ => isPrinted_of_all rfl
  | .bool false, _ => isPrinted_of_all rfl
  | .number n, .number datum => isPrinted_number datum
  | .text s, _ => isPrinted_jsonString s
  | .kind k, _ => isPrinted_jsonString k.label
  | .list [], _ => isPrinted_of_all rfl
  | .list (v :: vs), .list each => by
      rw [List.forall_mem_cons] at each
      have edges : IsPrinted '[' ∧ IsPrinted ']' := by decide
      simpa [json, Layout.margin, Layout.inner, edges, or_imp, forall_and] using
        And.intro (isPrinted_json v each.1) (isPrinted_jsonItems vs each.2)
  | .record [], _ => isPrinted_of_all rfl
  | .record (f :: fs), .record _ each => by
      rw [List.forall_mem_cons] at each
      have edges : IsPrinted '\x7b' ∧ IsPrinted '\x7d' := by decide
      simpa [json, Layout.margin, Layout.inner, edges, or_imp, forall_and] using
        And.intro (isPrinted_jsonField f each.1) (isPrinted_jsonFields fs each.2)

theorem isPrinted_jsonItems : (vs : List Value) → (∀ v ∈ vs, v.IsData) →
    ∀ c ∈ jsonItems .line vs, IsPrinted c
  | [], _ => by simp [jsonItems]
  | v :: vs, each => by
      rw [List.forall_mem_cons] at each
      have between : IsPrinted ',' ∧ IsPrinted ' ' := by decide
      simpa [jsonItems, Layout.between, between, or_imp, forall_and] using
        And.intro (isPrinted_json v each.1) (isPrinted_jsonItems vs each.2)

theorem isPrinted_jsonField : (f : String × Value) → f.2.IsData →
    ∀ c ∈ jsonField .line f, IsPrinted c
  | (name, v), data => by
      have colon : IsPrinted ':' ∧ IsPrinted ' ' := by decide
      simpa [jsonField, colon, or_imp, forall_and] using
        And.intro (isPrinted_jsonString name) (isPrinted_json v data)

theorem isPrinted_jsonFields : (fs : List (String × Value)) → (∀ f ∈ fs, f.2.IsData) →
    ∀ c ∈ jsonFields .line fs, IsPrinted c
  | [], _ => by simp [jsonFields]
  | f :: fs, each => by
      rw [List.forall_mem_cons] at each
      have between : IsPrinted ',' ∧ IsPrinted ' ' := by decide
      simpa [jsonFields, Layout.between, between, or_imp, forall_and] using
        And.intro (isPrinted_jsonField f each.1) (isPrinted_jsonFields fs each.2)

end

end Deliberation.Value
