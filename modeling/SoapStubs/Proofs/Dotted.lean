import Mathlib.Computability.Language
import SoapStubs.Proofs.RuleSets

/-!
# The packages that rules may name

A rule is checked before anything else is done with it: both of its packages have to be dotted
identifiers.  Here the packages that pass are said as a language, without cutting a text at its
dots.

* `segment` is `[A-Za-z_$][A-Za-z0-9_$]*` and `separated S` is `S('.'S)*`, so that
  `dottedIdentifier` are the dotted identifiers;
* the check lets one line feed pass at the end of each segment: `looseSegment` is a segment with or
  without it, and `isSegment_iff` says that these are what it takes for segments;
* `mem_separated`: a text is of the form `S('.'S)*` if all its pieces between dots are in `S`;
* `check_language`: the check refuses exactly the rules with a package that is not of the form
  `T('.'T)*` for loose segments `T`, and `check_overlooks_line_feed` shows one that it lets pass.
-/

namespace SoapStubs

theorem Text.mem_joinPieces {sep c : Char} {p : List Char} {ps : List (List Char)} (hp : p ∈ ps)
    (hc : c ∈ p) : c ∈ joinPieces sep ps := by
  induction ps with
  | nil => cases hp
  | cons q ps ih =>
    cases ps with
    | nil => rwa [joinPieces, ← List.mem_singleton.1 hp]
    | cons q' ps =>
      rw [joinPieces, List.mem_append]
      rcases List.mem_cons.1 hp with rfl | hp
      · exact .inl hc
      · exact .inr (List.mem_cons_of_mem _ (ih hp))

namespace Rule

open scoped Computability

/-! ### The grammar -/

/-- The texts of one character with a property. -/
def oneOf (p : Char → Prop) : Language Char := {word | ∃ c, word = [c] ∧ p c}

/-- A segment may begin with it: `[A-Za-z_$]`. -/
def Head (c : Char) : Prop := ('A' ≤ c ∧ c ≤ 'Z') ∨ ('a' ≤ c ∧ c ≤ 'z') ∨ c = '_' ∨ c = '$'

/-- A segment may go on with it: `[A-Za-z0-9_$]`. -/
def Tail (c : Char) : Prop := ('0' ≤ c ∧ c ≤ '9') ∨ Head c

/-- The segments: `[A-Za-z_$][A-Za-z0-9_$]*`. -/
def segment : Language Char := oneOf Head * (oneOf Tail)∗

/-- Words with single dots between them: `S('.'S)*`. -/
def separated (S : Language Char) : Language Char := S * (oneOf (· = '.') * S)∗

def dottedIdentifier : Language Char := separated segment

/-- The segments, with or without a line feed at the end. -/
def looseSegment : Language Char := segment * (1 + oneOf (· = '\n'))

/-- The dotted identifiers, with or without a line feed at the end of each segment. -/
def looseIdentifier : Language Char := separated looseSegment

variable {p : Char → Prop} {S : Language Char} {word : List Char} {c : Char}

theorem mem_oneOf : word ∈ oneOf p ↔ ∃ c, word = [c] ∧ p c := Iff.rfl

theorem mem_star_oneOf : word ∈ (oneOf p)∗ ↔ ∀ c ∈ word, p c := by
  constructor
  · intro h c hc
    obtain ⟨chunks, rfl, hchunks⟩ := Language.mem_kstar.1 h
    obtain ⟨chunk, hchunk, hc⟩ := List.mem_flatten.1 hc
    obtain ⟨d, rfl, hd⟩ := mem_oneOf.1 (hchunks chunk hchunk)
    rwa [List.mem_singleton.1 hc]
  · intro h
    -- one chunk for each character
    refine Language.mem_kstar.2 ⟨word.map fun c => [c], (List.flatMap_singleton' word).symm, ?_⟩
    intro chunk hchunk
    obtain ⟨c, hc, rfl⟩ := List.mem_map.1 hchunk
    exact mem_oneOf.2 ⟨c, rfl, h c hc⟩

theorem mem_segment : word ∈ segment ↔ ∃ c cs, word = c :: cs ∧ Head c ∧ ∀ d ∈ cs, Tail d := by
  rw [segment, Language.mem_mul]
  constructor
  · rintro ⟨first, hfirst, cs, hcs, rfl⟩
    obtain ⟨c, rfl, hc⟩ := mem_oneOf.1 hfirst
    exact ⟨c, cs, rfl, hc, mem_star_oneOf.1 hcs⟩
  · rintro ⟨c, cs, rfl, hc, hcs⟩
    exact ⟨[c], mem_oneOf.2 ⟨c, rfl, hc⟩, cs, mem_star_oneOf.2 hcs, rfl⟩

theorem mem_looseSegment :
    word ∈ looseSegment ↔ word ∈ segment ∨ ∃ front ∈ segment, word = front ++ ['\n'] := by
  rw [looseSegment, Language.mem_mul]
  constructor
  · rintro ⟨front, hfront, back, hback, rfl⟩
    rcases (Language.mem_add _ _ _).1 hback with hnil | hfeed
    · rw [(Language.mem_one _).1 hnil, List.append_nil]
      exact .inl hfront
    · obtain ⟨c, rfl, rfl⟩ := mem_oneOf.1 hfeed
      exact .inr ⟨front, hfront, rfl⟩
  · rintro (hword | ⟨front, hfront, rfl⟩)
    · exact ⟨word, hword, [], .inl (Language.nil_mem_one), List.append_nil _⟩
    · exact ⟨front, hfront, ['\n'], .inr ⟨'\n', rfl, rfl⟩, rfl⟩

/-! ### Words between dots -/

/-- The texts of the form `S('.'S)*` are those that are put together of words of `S`. -/
theorem mem_separated_iff_exists : word ∈ separated S ↔
    ∃ first rest, word = Text.joinPieces '.' (first :: rest) ∧ ∀ q ∈ first :: rest, q ∈ S := by
  rw [separated, Language.mem_mul]
  constructor
  · rintro ⟨first, hfirst, back, hback, rfl⟩
    obtain ⟨chunks, rfl, hchunks⟩ := Language.mem_kstar.1 hback
    induction chunks generalizing first with
    | nil => exact ⟨first, [], by simp [Text.joinPieces], by simpa using hfirst⟩
    | cons chunk chunks ih =>
      obtain ⟨hchunk, hrest⟩ := List.forall_mem_cons.1 hchunks
      obtain ⟨dot, hdot, next, hnext, rfl⟩ := Language.mem_mul.1 hchunk
      obtain ⟨c, rfl, rfl⟩ := mem_oneOf.1 hdot
      obtain ⟨q, qs, heq, hqs⟩ := ih next hnext hrest (Language.join_mem_kstar hrest)
      refine ⟨first, q :: qs, ?_, List.forall_mem_cons.2 ⟨hfirst, hqs⟩⟩
      rw [Text.joinPieces, ← heq]
      simp
  · rintro ⟨first, rest, rfl, hall⟩
    induction rest generalizing first with
    | nil =>
      exact ⟨first, hall first List.mem_cons_self, [], Language.nil_mem_kstar _, by
        simp [Text.joinPieces]⟩
    | cons next rest ih =>
      obtain ⟨hfirst, hrest⟩ := List.forall_mem_cons.1 hall
      obtain ⟨q, hq, back, hback, heq⟩ := ih next hrest
      obtain ⟨chunks, rfl, hchunks⟩ := Language.mem_kstar.1 hback
      refine ⟨first, hfirst, ('.' :: q) ++ chunks.flatten, ?_, ?_⟩
      · refine Language.mem_kstar.2 ⟨('.' :: q) :: chunks, by simp, ?_⟩
        refine List.forall_mem_cons.2 ⟨?_, hchunks⟩
        exact Language.mem_mul.2 ⟨['.'], ⟨'.', rfl, rfl⟩, q, hq, rfl⟩
      · rw [Text.joinPieces, ← heq]
        simp

/-- If no word of `S` has a dot, then a text is of the form `S('.'S)*` exactly if all its pieces
between dots are in `S`. -/
theorem mem_separated (hS : ∀ q ∈ S, '.' ∉ q) :
    word ∈ separated S ↔ ∀ q ∈ Text.pieces '.' word, q ∈ S := by
  rw [mem_separated_iff_exists]
  constructor
  · rintro ⟨first, rest, rfl, hall⟩
    rwa [Text.pieces_joinPieces (List.cons_ne_nil _ _) fun q hq => hS q (hall q hq)]
  · intro hall
    cases hpieces : Text.pieces '.' word with
    | nil => exact absurd hpieces (Text.pieces_ne_nil _ _)
    | cons first rest =>
      rw [hpieces] at hall
      exact ⟨first, rest, by rw [← hpieces, Text.joinPieces_pieces], hall⟩

/-! ### The check of a segment -/

theorem isHead_iff : isHead c = true ↔ Head c := by
  have hupper : c.isUpper = true ↔ 'A' ≤ c ∧ c ≤ 'Z' := decide_eq_true_iff
  have hlower : c.isLower = true ↔ 'a' ≤ c ∧ c ≤ 'z' :=
    Bool.and_eq_true_iff.trans (and_congr decide_eq_true_iff decide_eq_true_iff)
  show (((c.isUpper || c.isLower) || c == '_') || c == '$') = true ↔ _
  rw [Bool.or_eq_true, Bool.or_eq_true, Bool.or_eq_true, hupper, hlower, beq_iff_eq, beq_iff_eq,
    Head, or_assoc, or_assoc]

theorem isTail_iff : isTail c = true ↔ Tail c := by
  have hdigit : c.isDigit = true ↔ '0' ≤ c ∧ c ≤ '9' :=
    Bool.and_eq_true_iff.trans (and_congr decide_eq_true_iff decide_eq_true_iff)
  have hsplit : isTail c = (c.isDigit || isHead c) := by
    show (((c.isAlpha || c.isDigit) || c == '_') || c == '$') =
      (c.isDigit || ((c.isAlpha || c == '_') || c == '$'))
    cases c.isDigit <;> simp
  rw [hsplit, Bool.or_eq_true, hdigit, isHead_iff, Tail]

theorem not_tail_of_mem (h : c ∈ ['.', '\n']) : ¬Tail c := by
  rw [← isTail_iff]
  rcases List.mem_cons.1 h with rfl | h
  · decide
  · rw [List.mem_singleton.1 h]
    decide

theorem Head.tail (h : Head c) : Tail c := .inr h

/-- Segments are made of the characters that a segment may go on with. -/
theorem tail_of_mem_segment (h : word ∈ segment) : ∀ c ∈ word, Tail c := by
  obtain ⟨c, cs, rfl, hc, hcs⟩ := mem_segment.1 h
  exact List.forall_mem_cons.2 ⟨hc.tail, hcs⟩

theorem dot_not_mem_segment (h : word ∈ segment) : '.' ∉ word := fun hdot =>
  not_tail_of_mem (by simp) (tail_of_mem_segment h '.' hdot)

theorem dot_not_mem_looseSegment (h : word ∈ looseSegment) : '.' ∉ word := by
  rcases mem_looseSegment.1 h with hword | ⟨front, hfront, rfl⟩
  · exact dot_not_mem_segment hword
  · intro hdot
    rcases List.mem_append.1 hdot with hdot | hdot
    · exact dot_not_mem_segment hfront hdot
    · exact absurd (List.mem_singleton.1 hdot) (by decide)

/-- **What the check takes for a segment.** -/
theorem isSegment_iff {s : String} : isSegment s = true ↔ s.toList ∈ looseSegment := by
  rw [mem_looseSegment, mem_segment, isSegment]
  cases s.toList with
  | nil => simp [mem_segment]
  | cons c cs =>
    by_cases hfeed : cs.getLast? = some '\n'
    · obtain ⟨ds, rfl⟩ := List.getLast?_eq_some_iff.1 hfeed
      have hnot : ¬∃ d es, c :: (ds ++ ['\n']) = d :: es ∧ Head d ∧ ∀ e ∈ es, Tail e := by
        rintro ⟨d, es, heq, -, hes⟩
        obtain ⟨-, rfl⟩ := List.cons.inj heq
        exact not_tail_of_mem (c := '\n') (by simp) (hes '\n' (by simp))
      have hfront : (∃ front ∈ segment, c :: (ds ++ ['\n']) = front ++ ['\n']) ↔
          c :: ds ∈ segment := by
        constructor
        · rintro ⟨front, hfront, heq⟩
          rw [← List.cons_append] at heq
          rwa [List.append_cancel_right heq]
        · exact fun h => ⟨c :: ds, h, rfl⟩
      rw [or_iff_right hnot, hfront, mem_segment]
      simp [isHead_iff, isTail_iff]
    · have hnot : ¬∃ front ∈ segment, c :: cs = front ++ ['\n'] := by
        rintro ⟨front, hfront, heq⟩
        obtain ⟨d, es, rfl, -, -⟩ := mem_segment.1 hfront
        obtain ⟨-, rfl⟩ := List.cons.inj heq
        exact hfeed List.getLast?_concat
      rw [or_iff_left hnot]
      simp [hfeed, isHead_iff, isTail_iff]

/-! ### The check of a rule -/

theorem mem_dottedIdentifier :
    word ∈ dottedIdentifier ↔ ∀ q ∈ Text.pieces '.' word, q ∈ segment :=
  mem_separated fun _ => dot_not_mem_segment

theorem mem_looseIdentifier :
    word ∈ looseIdentifier ↔ ∀ q ∈ Text.pieces '.' word, q ∈ looseSegment :=
  mem_separated fun _ => dot_not_mem_looseSegment

theorem isDotted_iff {package : String} :
    isDotted package = true ↔ package.toList ∈ looseIdentifier := by
  have hsplit : (Text.split '.' package).all isSegment = true ↔
      ∀ q ∈ Text.pieces '.' package.toList, q ∈ looseSegment := by
    simp [Text.split, isSegment_iff]
  rw [mem_looseIdentifier, ← hsplit, isDotted, Bool.and_eq_true, bne_iff_ne, and_iff_right_iff_imp]
  rintro hall rfl
  exact absurd hall (by decide)

theorem mem_looseIdentifier_of_mem (h : word ∈ dottedIdentifier) : word ∈ looseIdentifier := by
  rw [mem_dottedIdentifier] at h
  rw [mem_looseIdentifier]
  intro q hq
  exact mem_looseSegment.2 (.inl (h q hq))

/-- Without line feeds, only dotted identifiers are left. -/
theorem mem_looseIdentifier_of_notMem (h : '\n' ∉ word) :
    word ∈ looseIdentifier ↔ word ∈ dottedIdentifier := by
  refine ⟨fun hloose => mem_dottedIdentifier.2 fun q hq => ?_, mem_looseIdentifier_of_mem⟩
  rcases mem_looseSegment.1 (mem_looseIdentifier.1 hloose q hq) with hsegment | ⟨front, -, rfl⟩
  · exact hsegment
  · rw [← Text.joinPieces_pieces '.' word] at h
    exact absurd (Text.mem_joinPieces hq (by simp)) h

theorem check_eq_ok_iff {rule : Rule} : rule.check = .ok () ↔
    rule.source.toList ∈ looseIdentifier ∧ rule.target.toList ∈ looseIdentifier := by
  rw [← isDotted_iff, ← isDotted_iff]
  exact ⟨isDotted_of_check, check_of_isDotted⟩

theorem integrityError_check_iff {rule : Rule} :
    IntegrityError rule.check ↔ ¬rule.check = .ok () := by
  constructor
  · intro h hok
    exact h.ne_ok () hok
  · exact rule.check_cases.resolve_left

/-- **Which rules are refused**: those with a package that is not of the form `T('.'T)*`, where `T`
is a segment with or without one line feed at its end.  No rule with two dotted identifiers is
refused, and of the rules without line feeds all others are. -/
theorem check_language (rule : Rule) :
    (IntegrityError rule.check ↔
      rule.source.toList ∉ looseIdentifier ∨ rule.target.toList ∉ looseIdentifier) ∧
    (rule.check = .ok () ↔
      rule.source.toList ∈ looseIdentifier ∧ rule.target.toList ∈ looseIdentifier) ∧
    (rule.source.toList ∈ dottedIdentifier → rule.target.toList ∈ dottedIdentifier →
      rule.check = .ok ()) ∧
    ('\n' ∉ rule.source.toList → '\n' ∉ rule.target.toList →
      (IntegrityError rule.check ↔
        rule.source.toList ∉ dottedIdentifier ∨ rule.target.toList ∉ dottedIdentifier)) := by
  refine ⟨?_, check_eq_ok_iff, ?_, ?_⟩
  · rw [integrityError_check_iff, check_eq_ok_iff, not_and_or]
  · intro hsource htarget
    exact check_eq_ok_iff.2 ⟨mem_looseIdentifier_of_mem hsource, mem_looseIdentifier_of_mem htarget⟩
  · intro hsource htarget
    rw [integrityError_check_iff, check_eq_ok_iff, not_and_or,
      mem_looseIdentifier_of_notMem hsource, mem_looseIdentifier_of_notMem htarget]

/-- **A line feed is overlooked**: a package with a line feed in it is no dotted identifier, but the
rule is not refused. -/
theorem check_overlooks_line_feed :
    let rule : Rule := ⟨"org\n.acme", "com.client"⟩
    rule.source.toList ∉ dottedIdentifier ∧ ¬IntegrityError rule.check ∧ rule.check = .ok () ∧
      (Resolver.ofRules [rule]).isOk = true := by
  intro rule
  have hok : rule.check = .ok () := check_of_isDotted ⟨by decide, by decide⟩
  refine ⟨?_, fun h => h.ne_ok () hok, hok, by decide⟩
  intro hsource
  have hpiece : ['o', 'r', 'g', '\n'] ∈ segment :=
    mem_dottedIdentifier.1 hsource _ (by decide)
  exact not_tail_of_mem (c := '\n') (by simp) (tail_of_mem_segment hpiece '\n' (by simp))

end Rule

end SoapStubs
