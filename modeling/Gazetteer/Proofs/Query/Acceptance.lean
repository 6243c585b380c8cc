import Gazetteer.Proofs.Query.Counting
import Gazetteer.Proofs.Query.Lexing

/-!
# Which texts are accepted

The grammar of queries is

    expr := term (('AND' | 'OR') term)*
    term := 'NOT'* atom
    atom := predicate | '(' expr ')'

and a text follows it if its tokens are derived (`Derives`) or if it is blank. Every such text is
compiled. The converse is a matter of counting, as the yard does not look at what stands in front of
a token. As long as no term follows right on another one, counting is enough (`Yard.Tracks`): in
front of a term the balance is at most zero and behind a term at most one, and where it has this
value the tokens so far are the start of an expression. Where terms do meet (`TermsMeet`) the count
can come out right by chance, with an operator behind its operands.
-/

namespace Gazetteer.Query

/-! ## The grammar -/

/-- The categories of the grammar. -/
inductive Category where
  | expr
  | term
  | atom
  deriving DecidableEq, Repr

/-- The tokens are derived from a category. -/
inductive Derives : Category → List Token → Prop where
  | word {w : String} (hw : (Token.word w).IsValid) : Derives .atom [.word w]
  | group {ts : List Token} : Derives .expr ts → Derives .atom (.open :: ts ++ [.close])
  | atom {ts : List Token} : Derives .atom ts → Derives .term ts
  | not {ts : List Token} : Derives .term ts → Derives .term (.op .not :: ts)
  | term {ts : List Token} : Derives .term ts → Derives .expr ts
  | join {o : Operator} (ho : o ≠ .not) {ts us : List Token} : Derives .expr ts → Derives .term us →
    Derives .expr (ts ++ .op o :: us)

/-- How loosely operators bind in what is derived from a category. -/
def Category.level : Category → Operator
  | .expr => .or
  | _ => .not

/-- A phrase can be joined with a term, whatever binds tighter. -/
theorem Phrase.join {o : Operator} (ho : o ≠ .not) {a b : Expr} {ts us : List Token}
    (ha : Phrase .or a ts) (hb : Phrase .not b us) : ∃ e, Phrase .or e (ts ++ .op o :: us) := by
  cases o with
  | not => exact absurd rfl ho
  | or => exact ⟨_, .or ha (.ofNot hb)⟩
  | and =>
    cases ha with
    | or hl hr =>
      rw [List.append_assoc, List.cons_append]
      exact ⟨_, .or hl (.and hr hb)⟩
    | ofAnd ha => exact ⟨_, .ofAnd (.and ha hb)⟩

/-- What the grammar derives is a phrase. -/
theorem Derives.exists_phrase {category : Category} {ts : List Token} (h : Derives category ts) :
    ∃ e, Phrase category.level e ts := by
  induction h with
  | word hw =>
    obtain ⟨p, hp⟩ := hw
    exact ⟨_, .word hp⟩
  | group _ ih =>
    obtain ⟨e, he⟩ := ih
    exact ⟨e, .group he⟩
  | atom _ ih => exact ih
  | not _ ih =>
    obtain ⟨e, he⟩ := ih
    exact ⟨_, .not he⟩
  | term _ ih =>
    obtain ⟨e, he⟩ := ih
    exact ⟨e, .ofAnd (.ofNot he)⟩
  | join ho _ _ iha ihb =>
    obtain ⟨a, ha⟩ := iha
    obtain ⟨b, hb⟩ := ihb
    exact ha.join ho hb

/-! ## Terms that meet -/

/-- A word or the end of a group. -/
def Token.endsTerm : Token → Bool
  | .word _ => true
  | .close => true
  | _ => false

/-- What can start a term: a word, a group or `NOT`. -/
def Token.startsTerm : Token → Bool
  | .word _ => true
  | .open => true
  | .op .not => true
  | _ => false

def EndsTerm (ts : List Token) : Prop :=
  ∃ front t, ts = front ++ [t] ∧ t.endsTerm = true

/-- Somewhere a term starts right behind another one, with no operator between them. -/
def TermsMeet (ts : List Token) : Prop :=
  ∃ front t u back, ts = front ++ t :: u :: back ∧ t.endsTerm = true ∧ u.startsTerm = true

theorem endsTerm_concat {ts : List Token} {t : Token} :
    EndsTerm (ts ++ [t]) ↔ t.endsTerm = true := by
  constructor
  · rintro ⟨front, u, h, hu⟩
    rwa [(List.append_inj' h rfl).2 |> List.singleton_inj.1]
  · exact fun h => ⟨ts, t, rfl, h⟩

theorem termsMeet_of_endsTerm {ts : List Token} {t : Token} (hts : EndsTerm ts)
    (ht : t.startsTerm = true) (back : List Token) : TermsMeet (ts ++ t :: back) := by
  obtain ⟨front, u, rfl, hu⟩ := hts
  exact ⟨front, u, t, back, by simp, hu, ht⟩

/-- Terms that meet in two sequences behind each other meet in one of them or between them. -/
theorem termsMeet_append {ts us : List Token} (h : TermsMeet (ts ++ us)) :
    TermsMeet ts ∨ TermsMeet us ∨ EndsTerm ts ∧ ∃ u back, us = u :: back ∧ u.startsTerm = true := by
  obtain ⟨front, t, u, back, heq, ht, hu⟩ := h
  rcases List.append_eq_append_iff.1 heq with ⟨mid, rfl, rfl⟩ | ⟨mid, rfl, hmid⟩
  · exact .inr (.inl ⟨mid, t, u, back, rfl, ht, hu⟩)
  · cases mid with
    | nil => exact .inr (.inl ⟨[], t, u, back, hmid.symm, ht, hu⟩)
    | cons t' mid =>
      cases mid with
      | nil =>
        cases hmid
        exact .inr (.inr ⟨⟨front, t, rfl, ht⟩, u, back, rfl, hu⟩)
      | cons u' mid =>
        cases hmid
        exact .inl ⟨front, t, u, mid, rfl, ht, hu⟩

theorem not_termsMeet_singleton (t : Token) : ¬TermsMeet [t] := by
  rintro ⟨front, u, v, back, h, -, -⟩
  have := congrArg List.length h
  simp only [List.length_append, List.length_cons, List.length_nil] at this
  omega

theorem not_termsMeet_cons {t : Token} {ts : List Token} (ht : t.endsTerm = false)
    (hts : ¬TermsMeet ts) : ¬TermsMeet (t :: ts) := by
  intro h
  rw [← List.singleton_append] at h
  rcases termsMeet_append h with h | h | ⟨hends, -⟩
  · exact not_termsMeet_singleton t h
  · exact hts h
  · rw [← List.nil_append [t], endsTerm_concat, ht] at hends
    cases hends

/-- No terms meet in what is derived. -/
theorem Derives.not_termsMeet {category : Category} {ts : List Token} (h : Derives category ts) :
    ¬TermsMeet ts := by
  induction h with
  | word => exact not_termsMeet_singleton _
  | group _ ih =>
    intro h
    rcases termsMeet_append h with h | h | ⟨-, u, back, hu, hstart⟩
    · exact not_termsMeet_cons rfl ih h
    · exact not_termsMeet_singleton _ h
    · cases hu
      cases hstart
  | atom _ ih => exact ih
  | not _ ih => exact not_termsMeet_cons rfl ih
  | term _ ih => exact ih
  | @join o ho _ _ _ _ iha ihb =>
    intro h
    rcases termsMeet_append h with h | h | ⟨-, u, back, hu, hstart⟩
    · exact iha h
    · exact not_termsMeet_cons rfl ihb h
    · cases hu
      cases o with
      | not => exact ho rfl
      | and => cases hstart
      | or => cases hstart

/-! ## Starts of expressions -/

/-- With `n` parentheses open, the tokens are the start of an expression and end with a term: there
is an expression behind the last open parenthesis, and with any term in the place of its group the
tokens are complete with one parenthesis less. -/
def Complete : Nat → List Token → Prop
  | 0, ts => Derives .expr ts
  | n + 1, ts => ∃ front body, ts = front ++ .open :: body ∧ Derives .expr body ∧
      ∀ us, Derives .term us → Complete n (front ++ us)

/-- With a term behind them, the tokens are complete. -/
def Awaits (n : Nat) (ts : List Token) : Prop :=
  ∀ us, Derives .term us → Complete n (ts ++ us)

theorem awaits_nil : Awaits 0 [] := fun _ hus => .term hus

theorem Awaits.word {n : Nat} {ts : List Token} {w : String} (h : Awaits n ts)
    (hw : (Token.word w).IsValid) : Complete n (ts ++ [.word w]) :=
  h _ (.atom (.word hw))

theorem Awaits.not {n : Nat} {ts : List Token} (h : Awaits n ts) : Awaits n (ts ++ [.op .not]) := by
  intro us hus
  rw [List.append_assoc]
  exact h _ (.not hus)

theorem Awaits.open {n : Nat} {ts : List Token} (h : Awaits n ts) :
    Awaits (n + 1) (ts ++ [.open]) := by
  intro us hus
  rw [List.append_assoc]
  exact ⟨ts, us, rfl, .term hus, h⟩

theorem Complete.op {n : Nat} {ts : List Token} {o : Operator} (ho : o ≠ .not)
    (h : Complete n ts) : Awaits n (ts ++ [.op o]) := by
  intro us hus
  rw [List.append_assoc]
  cases n with
  | zero => exact .join ho h hus
  | succ n =>
    obtain ⟨front, body, rfl, hbody, hfront⟩ := h
    exact ⟨front, body ++ .op o :: us, by simp, .join ho hbody hus, hfront⟩

theorem Complete.close {n : Nat} {ts : List Token} (h : Complete (n + 1) ts) :
    Complete n (ts ++ [.close]) := by
  obtain ⟨front, body, rfl, hbody, hfront⟩ := h
  have := hfront _ (.atom (.group hbody))
  rwa [List.cons_append, ← List.cons_append, ← List.append_assoc] at this

/-! ## What the counts say -/

/-- What the counts of a yard say about the tokens that it took. -/
structure Yard.Tracks (y : Yard) (ts : List Token) : Prop where
  behind : EndsTerm ts → y.balance ≤ 1 ∧ (y.balance = 1 → Complete y.nesting ts)
  before : ¬EndsTerm ts → y.balance ≤ 0 ∧ (y.balance = 0 → Awaits y.nesting ts)

namespace Yard.Tracks

variable {y y' : Yard} {ts : List Token} {t : Token}

theorem empty : Tracks {} [] where
  behind := by
    rintro ⟨front, t, h, -⟩
    simp at h
  before _ := ⟨Int.le_refl 0, fun _ => awaits_nil⟩

/-- The counts of a token behind which a term ends. -/
theorem of_endsTerm (ht : t.endsTerm = true) (hle : y.balance ≤ 1)
    (h : y.balance = 1 → Complete y.nesting (ts ++ [t])) : y.Tracks (ts ++ [t]) :=
  ⟨fun _ => ⟨hle, h⟩, fun hne => absurd (endsTerm_concat.2 ht) hne⟩

theorem of_not_endsTerm (ht : t.endsTerm = false) (hle : y.balance ≤ 0)
    (h : y.balance = 0 → Awaits y.nesting (ts ++ [t])) : y.Tracks (ts ++ [t]) := by
  refine ⟨fun hends => ?_, fun _ => ⟨hle, h⟩⟩
  rw [endsTerm_concat, ht] at hends
  cases hends

/-- A closing parenthesis where a term should start leaves the balance too low. -/
theorem push_close (h : y.Tracks ts) (hpush : y.Pushed .close y') : y'.Tracks (ts ++ [.close]) := by
  have hbalance : y'.balance = y.balance := by simpa [Token.gain] using hpush.balance
  have hnesting : y'.nesting + 1 = y.nesting := by simpa using hpush.nesting
  by_cases hends : EndsTerm ts
  · obtain ⟨hle, hcomplete⟩ := h.behind hends
    refine of_endsTerm rfl (by omega) fun hone => ?_
    exact (hnesting ▸ hcomplete (by omega)).close
  · obtain ⟨hle, -⟩ := h.before hends
    exact of_endsTerm rfl (by omega) fun hone => absurd hone (by omega)

/-- So does `AND` or `OR` there. -/
theorem push_join {o : Operator} (ho : o ≠ .not) (h : y.Tracks ts) (hpush : y.Pushed (.op o) y') :
    y'.Tracks (ts ++ [.op o]) := by
  have hcost : o.cost = 1 := by
    cases o with
    | not => exact absurd rfl ho
    | and => rfl
    | or => rfl
  have hbalance : y'.balance = y.balance - 1 := by rw [hpush.balance, Token.gain, hcost]; rfl
  have hnesting : y'.nesting = y.nesting := by simpa using hpush.nesting
  by_cases hends : EndsTerm ts
  · obtain ⟨hle, hcomplete⟩ := h.behind hends
    refine of_not_endsTerm rfl (by omega) fun hzero => ?_
    rw [hnesting]
    exact (hcomplete (by omega)).op ho
  · obtain ⟨hle, -⟩ := h.before hends
    exact of_not_endsTerm rfl (by omega) fun hzero => absurd hzero (by omega)

/-- A token keeps what the counts say, unless it is the start of a second term. -/
theorem push (h : y.Tracks ts) (hpush : y.Pushed t y')
    (hmeet : EndsTerm ts → t.startsTerm = false) : y'.Tracks (ts ++ [t]) := by
  have hstart : t.startsTerm = true → y.balance ≤ 0 ∧ (y.balance = 0 → Awaits y.nesting ts) := by
    refine fun ht => h.before fun hends => ?_
    rw [hmeet hends] at ht
    cases ht
  cases t with
  | word w =>
    obtain ⟨hle, hawaits⟩ := hstart rfl
    have hbalance : y'.balance = y.balance + 1 := hpush.balance
    have hnesting : y'.nesting = y.nesting := by simpa using hpush.nesting
    refine of_endsTerm rfl (by omega) fun hone => ?_
    rw [hnesting]
    exact (hawaits (by omega)).word hpush.isValid
  | «open» =>
    obtain ⟨hle, hawaits⟩ := hstart rfl
    have hbalance : y'.balance = y.balance := by simpa [Token.gain] using hpush.balance
    have hnesting : y'.nesting = y.nesting + 1 := by simpa using hpush.nesting
    refine of_not_endsTerm rfl (by omega) fun hzero => ?_
    rw [hnesting]
    exact (hawaits (by omega)).open
  | close => exact h.push_close hpush
  | op o =>
    by_cases ho : o = .not
    · subst ho
      obtain ⟨hle, hawaits⟩ := hstart rfl
      have hbalance : y'.balance = y.balance := by
        simpa [Token.gain, Operator.cost] using hpush.balance
      have hnesting : y'.nesting = y.nesting := by simpa using hpush.nesting
      refine of_not_endsTerm rfl (by omega) fun hzero => ?_
      rw [hnesting]
      exact (hawaits (by omega)).not
    · exact h.push_join ho hpush

/-- The counts tell the same of every sequence of tokens in which no terms meet. -/
theorem foldlM_push {us : List Token} (h : y.Tracks ts) (hus : us.foldlM Yard.push y = .ok y')
    (hmeet : ¬TermsMeet (ts ++ us)) : y'.Tracks (ts ++ us) := by
  induction us generalizing y ts with
  | nil =>
    cases hus
    rwa [List.append_nil]
  | cons u us ih =>
    rw [List.foldlM_cons] at hus
    obtain ⟨y₁, hpush, hus⟩ := exists_of_bind_eq_ok hus
    have hstart : EndsTerm ts → u.startsTerm = false := fun hends =>
      Bool.eq_false_iff.2 fun hu => hmeet (termsMeet_of_endsTerm hends hu us)
    have hconcat : ts ++ u :: us = (ts ++ [u]) ++ us := by simp
    rw [hconcat] at hmeet ⊢
    exact ih (h.push (pushed_of_push hpush) hstart) hus hmeet

end Yard.Tracks

/-! ## The verdict on a text -/

/-- Tokens that pass the checks are derived, if no terms meet in them. -/
theorem derives_of_checkArity {ts : List Token} {steps : List Step}
    (hyard : postfixOf ts = .ok steps) (harity : checkArity steps = .ok ()) (hne : ts ≠ [])
    (hmeet : ¬TermsMeet ts) : Derives .expr ts := by
  obtain ⟨y, hfold, hfinish⟩ := exists_of_bind_eq_ok hyard
  obtain ⟨hnesting, hsize, hbalance⟩ := Yard.counts_of_finish hfinish
  have hsteps : steps ≠ [] := by
    have hpos := size_pos_of_foldlM_push (y := {}) nofun hfold hne
    rw [← hsize] at hpos
    exact List.length_pos_iff.1 hpos
  have hone : y.balance = 1 := by rw [← hbalance, sum_gain_of_checkArity harity hsteps]
  have htracks : y.Tracks ts := Yard.Tracks.empty.foldlM_push hfold hmeet
  by_cases hends : EndsTerm ts
  · have hcomplete := (htracks.behind hends).2 hone
    rwa [hnesting] at hcomplete
  · have hle := (htracks.before hends).1
    omega

/-- The text follows the grammar. -/
def Documented (text : String) : Prop :=
  (∀ c ∈ text.toList, Unicode.isBlank c = true) ∨
    ∃ ts, tokens (quoteAtoms text.toList) = .ok ts ∧ Derives .expr ts

theorem exists_compile_of_documented {text : String} (h : Documented text) :
    ∃ q, compile text = .ok q := by
  rcases h with hblank | ⟨ts, hts, hderives⟩
  · refine ⟨⟨text, []⟩, ?_⟩
    rw [compile, bind_of_eq_ok (tokens_eq_nil_iff.2 hblank)]
    rfl
  · obtain ⟨e, he⟩ := hderives.exists_phrase
    exact ⟨_, compile_phrase hts he⟩

theorem not_documented_of_termsMeet {text : String} {ts : List Token}
    (hts : tokens (quoteAtoms text.toList) = .ok ts) (hmeet : TermsMeet ts) : ¬Documented text := by
  rintro (hblank | ⟨ts', hts', hderives⟩)
  · rw [tokens_eq_nil_iff.2 hblank] at hts
    cases hts
    obtain ⟨front, t, u, back, h, -⟩ := hmeet
    simp at h
  · rw [hts] at hts'
    cases hts'
    exact hderives.not_termsMeet hmeet

/-- Beside the texts that follow the grammar, only such are accepted in which terms meet. -/
theorem documented_or_termsMeet {text : String} {q : Query} (h : compile text = .ok q) :
    Documented text ∨ ∃ ts, tokens (quoteAtoms text.toList) = .ok ts ∧ TermsMeet ts := by
  obtain ⟨ts, hts, h⟩ := exists_of_bind_eq_ok h
  obtain ⟨steps, hyard, h⟩ := exists_of_bind_eq_ok h
  obtain ⟨_, harity, -⟩ := exists_of_bind_eq_ok h
  by_cases hmeet : TermsMeet ts
  · exact .inr ⟨ts, hts, hmeet⟩
  · by_cases hne : ts = []
    · exact .inl (.inl (tokens_eq_nil_iff.1 (hne ▸ hts)))
    · exact .inl (.inr ⟨ts, hts, derives_of_checkArity hyard harity hne hmeet⟩)

/-- A text that follows the grammar is accepted. Any other one is refused with an error of queries,
unless terms meet in it. -/
theorem compile_verdict (text : String) :
    (Documented text → ∃ q, compile text = .ok q) ∧
      (¬Documented text →
        (∃ fault, compile text = .error fault ∧ fault.toError.isQueryError = true) ∨
          ∃ ts, tokens (quoteAtoms text.toList) = .ok ts ∧ TermsMeet ts) := by
  refine ⟨exists_compile_of_documented, fun hnot => ?_⟩
  cases h : compile text with
  | error fault => exact .inl ⟨fault, rfl, rfl⟩
  | ok q => exact .inr ((documented_or_termsMeet h).resolve_left hnot)

/-- Where terms meet, an operator behind its operand is accepted. -/
theorem compile_operator_behind_operand :
    (∃ q, compile "tag:a NOT" = .ok q) ∧ ¬Documented "tag:a NOT" := by
  have htokens : tokens (quoteAtoms "tag:a NOT".toList) = .ok [.word "tag:a", .op .not] := by
    decide +kernel
  refine ⟨⟨⟨"tag:a NOT", [.test (.tag ⟨"a"⟩), .apply .not]⟩, by decide +kernel⟩, ?_⟩
  exact not_documented_of_termsMeet htokens ⟨[], .word "tag:a", .op .not, [], rfl, rfl, rfl⟩

end Gazetteer.Query
