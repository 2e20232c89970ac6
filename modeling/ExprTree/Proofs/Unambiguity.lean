import ExprTree.Proofs.Lexical
import ExprTree.Proofs.RoundTrip

/-!
# The text of a tree read back

The text of a tree shows its shape (`Shape`): the kind of every node, the
names of parameters, fields and lambda parameters, the indices and the texts
of literals, and nothing of types, views or parameter numbers. This module
proves when the text determines the shape.

Binary operators are parenthesised and literals quoted, but the prefix `!`
and a lambda's header are not closed: a field read after `!x` reads as
`!(x.f)`. So the text fixes the shape exactly when no field or index is read
after a negation or a lambda and no literal holds a quote (`Shape.Readable`).

* `Shape.chars_append_inj`: two readable shapes whose texts, each followed by
  text that closes an operand (`Closes`), spell the same characters are
  equal. By strong induction on the size of the first shape: a shape is a
  head (a parameter, literal, negation, operation or lambda) followed by a
  chain of field and index reads, and the first character of a head tells
  its kind; names and digits are read to their end.
* `Node.Made.compile_eq_iff`: for made trees that meet those conditions,
  equal texts are equal shapes, so equal fingerprints are equal shapes or a
  collision of the hash on two texts.
* `Node.compile_not_member_eq`: a field read after a negation breaks this:
  `!(x.f)` and `(!x).f` are both written `!x.f`.
-/

namespace ExprTree

/-! ### Shapes and their texts -/

/-- The three binary operators. -/
inductive Op where
  | equal
  | and
  | or
  deriving DecidableEq, Repr

/-- The operator's token between its operands. -/
def Op.token : Op → String
  | equal => "==="
  | and => "&&"
  | or => "||"

/-- An operator's token, followed by a blank, is read to its end. -/
theorem Op.token_append_inj {op op' : Op} {u v : List Char}
    (h : op.token.toList ++ ' ' :: u = op'.token.toList ++ ' ' :: v) : op = op' ∧ u = v := by
  cases op <;> cases op' <;> simp_all [Op.token]

/-- What the text of a tree shows of it. -/
inductive Shape where
  | param (name : String)
  | literal (text : String)
  | member (source : Shape) (field : String)
  | index (source : Shape) (i : Nat)
  | not (operand : Shape)
  | binary (op : Op) (left right : Shape)
  | lambda (names : List String) (body : Shape)
  deriving DecidableEq, Repr

/-- The names of a lambda's header, comma separated. -/
def namesChars : List String → List Char
  | [] => []
  | [x] => x.toList
  | x :: y :: xs => x.toList ++ ',' :: namesChars (y :: xs)

/-- A field or an index read after a source. -/
inductive Postfix where
  | field (f : String)
  | index (i : Nat)
  deriving DecidableEq, Repr

namespace Postfix

/-- The read applied to a source. -/
def apply : Postfix → Shape → Shape
  | field f, s => .member s f
  | index i, s => .index s i

/-- The text of the read. -/
def chars : Postfix → List Char
  | field f => '.' :: f.toList
  | index i => '[' :: Nat.toDigits 10 i ++ [']']

/-- A field read names an identifier. -/
def Readable : Postfix → Prop
  | field f => isIdentifier f
  | index _ => True

end Postfix

namespace Shape

/-- The text of a shape, as characters. -/
def chars : Shape → List Char
  | param x => x.toList
  | literal t => '\'' :: t.toList ++ ['\'']
  | member s f => s.chars ++ '.' :: f.toList
  | index s i => s.chars ++ '[' :: Nat.toDigits 10 i ++ [']']
  | not o => '!' :: o.chars
  | binary op l r => '(' :: l.chars ++ ' ' :: op.token.toList ++ ' ' :: r.chars ++ [')']
  | lambda xs b => '(' :: namesChars xs ++ ')' :: ' ' :: '=' :: '>' :: ' ' :: b.chars

/-- The number of nodes. -/
def size : Shape → Nat
  | param _ | literal _ => 1
  | member s _ | index s _ | not s => s.size + 1
  | binary _ l r => l.size + r.size + 1
  | lambda _ b => b.size + 1

theorem size_pos (a : Shape) : 0 < a.size := by
  cases a <;> simp [size]

/-- Whether the shape is a field or an index read. -/
def isPostfix : Shape → Bool
  | member .. | index .. => true
  | _ => false

/-- Whether the text starts with a prefix that is not closed: `!` or a
    lambda's header. -/
def prefixed : Shape → Bool
  | not _ | lambda .. => true
  | _ => false

/-- The shape under all field and index reads. -/
def head : Shape → Shape
  | member s _ | index s _ => s.head
  | a => a

/-- The field and index reads above the head, innermost first. -/
def chain : Shape → List Postfix
  | member s f => s.chain ++ [.field f]
  | index s i => s.chain ++ [.index i]
  | _ => []

/-- The head with the reads of a chain applied to it in turn. -/
def extend (h : Shape) (c : List Postfix) : Shape := c.foldl (fun a p => p.apply a) h

theorem extend_head_chain (a : Shape) : a.head.extend a.chain = a := by
  induction a with
  | member s f ih | index s i ih => simp [extend, head, chain, Postfix.apply] at ih ⊢; rw [ih]
  | _ => rfl

theorem chars_head_chain (a : Shape) :
    a.chars = a.head.chars ++ a.chain.flatMap Postfix.chars := by
  induction a with
  | member s f ih | index s i ih => simp [chars, head, chain, Postfix.chars, ih]
  | _ => simp [head, chain]

theorem size_head_le (a : Shape) : a.head.size ≤ a.size := by
  induction a with
  | member s f ih | index s i ih => simp only [head, size]; omega
  | _ => simp [head]

@[simp] theorem isPostfix_head (a : Shape) : a.head.isPostfix = false := by
  induction a with
  | member s f ih | index s i ih => exact ih
  | _ => rfl

theorem chain_eq_nil_of_prefixed {a : Shape} (h : a.prefixed = true) : a.chain = [] := by
  cases a <;> simp_all [prefixed, chain]

end Shape

/-! ### Reading names, digits and quoted text to their end -/

/-- A character that may stand in an identifier. -/
def identChar (c : Char) : Bool :=
  c == '_' || c == '$' || Text.isLetter c || Text.isDigit c

/-- The punctuation of the grammar is no part of an identifier. -/
theorem identChar_eq_false {c : Char} (h : c ∈ ['\'', '!', '(', ')', ',', '.', '[', ' ']) :
    identChar c = false := by
  simp only [List.mem_cons, List.not_mem_nil, or_false] at h
  rcases h with rfl | rfl | rfl | rfl | rfl | rfl | rfl | rfl <;> decide +kernel

theorem isIdentifier_toList {x : String} (h : isIdentifier x) :
    x.toList ≠ [] ∧ ∀ c ∈ x.toList, identChar c := by
  unfold isIdentifier at h
  split at h
  · cases h
  · rename_i c cs hx
    simp only [Bool.and_eq_true, List.all_eq_true] at h
    refine ⟨by simp [hx], ?_⟩
    rw [hx]
    intro d hd
    rcases List.mem_cons.mp hd with rfl | hd
    · simp [identChar, h.1]
    · exact h.2 d hd

/-- Two words of a class, each followed by text that does not go on with the
    class, end at the same place. -/
theorem append_eq_append_of_stop {α : Type} {p : α → Bool} :
    ∀ {u v x y : List α}, (∀ c ∈ u, p c) → (∀ c ∈ v, p c) →
      (∀ c ∈ x.head?, p c = false) → (∀ c ∈ y.head?, p c = false) → u ++ x = v ++ y →
      u = v ∧ x = y
  | [], [], _, _, _, _, _, _, h => ⟨rfl, h⟩
  | [], b :: v, x, y, _, hv, hx, _, h => by
    have hb := hx b (by simp [show x = b :: (v ++ y) from h])
    simp [hv b (by simp)] at hb
  | a :: u, [], x, y, hu, _, _, hy, h => by
    have ha := hy a (by simp [show y = a :: (u ++ x) from h.symm])
    simp [hu a (by simp)] at ha
  | a :: u, b :: v, x, y, hu, hv, hx, hy, h => by
    simp only [List.cons_append, List.cons.injEq] at h
    obtain ⟨rfl, h⟩ := h
    obtain ⟨rfl, rfl⟩ := append_eq_append_of_stop (fun c hc => hu c (by simp [hc]))
      (fun c hc => hv c (by simp [hc])) hx hy h
    exact ⟨rfl, rfl⟩

/-- Text that closes an operand: nothing, a blank or a closing parenthesis. -/
def Closes (r : List Char) : Prop := ∀ c ∈ r.head?, c = ' ' ∨ c = ')'

/-- Text that may follow a head: a field or index read, or text that closes
    an operand. -/
def Follows (r : List Char) : Prop := ∀ c ∈ r.head?, c = '.' ∨ c = '[' ∨ c = ' ' ∨ c = ')'

theorem Closes.follows {r : List Char} (h : Closes r) : Follows r := fun c hc => by
  rcases h c hc with rfl | rfl <;> simp

theorem Follows.stops {r : List Char} (h : Follows r) : ∀ c ∈ r.head?, identChar c = false :=
  fun c hc => identChar_eq_false (by rcases h c hc with rfl | rfl | rfl | rfl <;> simp)

/-- An identifier followed by text that may follow a head is read to its end. -/
theorem identifier_append_inj {x y : String} {u v : List Char} (hx : isIdentifier x)
    (hy : isIdentifier y) (hu : ∀ c ∈ u.head?, identChar c = false)
    (hv : ∀ c ∈ v.head?, identChar c = false) (h : x.toList ++ u = y.toList ++ v) :
    x = y ∧ u = v := by
  obtain ⟨hxy, huv⟩ := append_eq_append_of_stop (isIdentifier_toList hx).2
    (isIdentifier_toList hy).2 hu hv h
  exact ⟨String.toList_inj.mp hxy, huv⟩

/-- An identifier does not start with punctuation of the grammar. -/
theorem identifier_append_ne {x : String} {u v : List Char} {c : Char} (hx : isIdentifier x)
    (hc : identChar c = false) : x.toList ++ u ≠ c :: v := by
  intro h
  obtain ⟨hne, hid⟩ := isIdentifier_toList hx
  obtain ⟨d, ds, hd⟩ := List.exists_cons_of_ne_nil hne
  rw [hd, List.cons_append, List.cons.injEq] at h
  have := hid d (by simp [hd])
  rw [h.1, hc] at this
  cases this

namespace Postfix

/-- A read followed by text that may follow a head is read to its end. -/
theorem chars_append_inj {p q : Postfix} {u v : List Char} (hp : p.Readable)
    (hq : q.Readable) (hu : Follows u) (hv : Follows v) (h : p.chars ++ u = q.chars ++ v) :
    p = q ∧ u = v := by
  cases p with
  | field f =>
    cases q with
    | field g =>
      simp only [chars, List.cons_append, List.cons.injEq, true_and] at h
      obtain ⟨rfl, rfl⟩ := identifier_append_inj hp hq hu.stops hv.stops h
      exact ⟨rfl, rfl⟩
    | index j => simp [chars] at h
  | index i =>
    cases q with
    | field g => simp [chars] at h
    | index j =>
      simp only [chars, List.cons_append, List.cons.injEq, true_and, List.append_assoc,
        List.nil_append] at h
      -- the digits are read up to the closing bracket
      obtain ⟨hd, h⟩ := append_eq_append_of_stop (p := Char.isDigit)
        (fun _ => Nat.isDigit_of_mem_toDigits (by decide) (by decide))
        (fun _ => Nat.isDigit_of_mem_toDigits (by decide) (by decide)) (by simp) (by simp) h
      have hij : i = j := by
        rw [← Nat.ofDigitChars_ten_toDigits (n := i), hd, Nat.ofDigitChars_ten_toDigits]
      exact ⟨hij ▸ rfl, (List.cons.inj h).2⟩

/-- Reads and then text that closes an operand may follow a head. -/
theorem follows_chain (c : List Postfix) {u : List Char} (hu : Closes u) :
    Follows (c.flatMap chars ++ u) := by
  cases c with
  | nil => simpa using hu.follows
  | cons p c => cases p <;> simp [Follows, chars]

/-- Reads and then a blank start with a dot, a bracket or the blank. -/
theorem chain_blank_cons (c : List Postfix) (w : List Char) :
    ∃ e t, c.flatMap chars ++ ' ' :: w = e :: t ∧ (e = '.' ∨ e = '[' ∨ e = ' ') := by
  cases c with
  | nil => exact ⟨' ', w, rfl, by simp⟩
  | cons p c => cases p <;> simp [chars]

/-- Chains of reads, each followed by text that closes an operand, are read
    to their end. -/
theorem chain_append_inj :
    ∀ {ca cb : List Postfix} {u v : List Char}, (∀ p ∈ ca, p.Readable) →
      (∀ q ∈ cb, q.Readable) → Closes u → Closes v →
      ca.flatMap chars ++ u = cb.flatMap chars ++ v → ca = cb ∧ u = v
  | [], [], _, _, _, _, _, _, h => ⟨rfl, h⟩
  | [], q :: _, _, _, _, _, hu, _, h => by
    simp only [List.flatMap_nil, List.nil_append, List.flatMap_cons, List.append_assoc] at h
    subst h
    cases q <;> simp [Closes, chars] at hu
  | p :: _, [], _, _, _, _, _, hv, h => by
    simp only [List.flatMap_nil, List.nil_append, List.flatMap_cons, List.append_assoc] at h
    subst h
    cases p <;> simp [Closes, chars] at hv
  | p :: ca, q :: cb, u, v, hp, hq, hu, hv, h => by
    simp only [List.flatMap_cons, List.append_assoc] at h
    obtain ⟨rfl, hrest⟩ := chars_append_inj (hp p (by simp)) (hq q (by simp))
      (follows_chain ca hu) (follows_chain cb hv) h
    obtain ⟨rfl, rfl⟩ := chain_append_inj (fun p' hp' => hp p' (by simp [hp']))
      (fun q' hq' => hq q' (by simp [hq'])) hu hv hrest
    exact ⟨rfl, rfl⟩

end Postfix

/-! ### Readable shapes -/

namespace Shape

/-- Whether the text of a shape reads back as the shape: the names of
    parameters, fields and lambda parameters are identifiers, literal texts
    hold no quote, and no field or index is read after a negation or a
    lambda. -/
def Readable : Shape → Prop
  | param x => isIdentifier x
  | literal t => '\'' ∉ t.toList
  | member s f => s.prefixed = false ∧ isIdentifier f ∧ s.Readable
  | index s _ => s.prefixed = false ∧ s.Readable
  | not o => o.Readable
  | binary _ l r => l.Readable ∧ r.Readable
  | lambda xs b => (∀ x ∈ xs, isIdentifier x) ∧ b.Readable

theorem Readable.head {a : Shape} (h : a.Readable) : a.head.Readable := by
  induction a with
  | member s f ih => exact ih h.2.2
  | index s i ih => exact ih h.2
  | _ => exact h

theorem Readable.chain {a : Shape} (h : a.Readable) : ∀ p ∈ a.chain, p.Readable := by
  induction a with
  | member s f ih =>
    intro p hp
    simp only [Shape.chain, List.mem_append, List.mem_singleton] at hp
    rcases hp with hp | rfl
    · exact ih h.2.2 p hp
    · exact h.2.1
  | index s i ih =>
    intro p hp
    simp only [Shape.chain, List.mem_append, List.mem_singleton] at hp
    rcases hp with hp | rfl
    · exact ih h.2 p hp
    · trivial
  | _ => simp [Shape.chain]

/-- Under reads the head is not prefixed, as the reads' sources are not. -/
theorem Readable.prefixed_head {a : Shape} (h : a.Readable) : a.head.prefixed = a.prefixed := by
  induction a with
  | member s f ih => rw [Shape.head, ih h.2.2, h.1]; rfl
  | index s i ih => rw [Shape.head, ih h.2, h.1]; rfl
  | _ => rfl

/-- After a prefixed head the text closes the operand. -/
theorem Readable.closes_chain {a : Shape} (h : a.Readable) {r : List Char} (hr : Closes r)
    (hp : a.head.prefixed = true) : Closes (a.chain.flatMap Postfix.chars ++ r) := by
  rw [chain_eq_nil_of_prefixed (h.prefixed_head ▸ hp)]
  simpa using hr

/-- How the text of a head starts: a name, a quote, `!` or a parenthesis. -/
inductive Opening where
  | name
  | quote
  | bang
  | paren
  deriving DecidableEq

/-- The opening a character starts, if any. -/
def Opening.of (c : Char) : Option Opening :=
  if identChar c then some .name
  else if c = '\'' then some .quote
  else if c = '!' then some .bang
  else if c = '(' then some .paren
  else none

/-- How the text of a shape starts: as its head's does. -/
def opening : Shape → Opening
  | param _ => .name
  | literal _ => .quote
  | member s _ | index s _ => s.opening
  | not _ => .bang
  | binary .. | lambda .. => .paren

/-- The first character of a text tells the opening of its shape. -/
theorem Readable.opens {a : Shape} (h : a.Readable) :
    ∃ c cs, a.chars = c :: cs ∧ Opening.of c = some a.opening := by
  induction a with
  | param x =>
    obtain ⟨hne, hid⟩ := isIdentifier_toList h
    obtain ⟨c, cs, hx⟩ := List.exists_cons_of_ne_nil hne
    exact ⟨c, cs, hx, by simp [Opening.of, hid c (by simp [hx]), opening]⟩
  | member s f ih =>
    obtain ⟨c, cs, hs, hc⟩ := ih h.2.2
    exact ⟨c, cs ++ '.' :: f.toList, by simp [chars, hs], hc⟩
  | index s i ih =>
    obtain ⟨c, cs, hs, hc⟩ := ih h.2
    exact ⟨c, cs ++ '[' :: (Nat.toDigits 10 i ++ [']']), by simp [chars, hs], hc⟩
  | not o => exact ⟨'!', _, rfl, show Opening.of '!' = some .bang by decide +kernel⟩
  | literal t => exact ⟨'\'', _, rfl, show Opening.of '\'' = some .quote by decide +kernel⟩
  | binary op l r | lambda xs b =>
    exact ⟨'(', _, rfl, show Opening.of '(' = some .paren by decide +kernel⟩

theorem opening_eq {a b : Shape} (ha : a.Readable) (hb : b.Readable) {r₁ r₂ : List Char}
    (h : a.chars ++ r₁ = b.chars ++ r₂) : a.opening = b.opening := by
  obtain ⟨c, cs, hca, hoa⟩ := ha.opens
  obtain ⟨d, ds, hcb, hob⟩ := hb.opens
  rw [hca, hcb, List.cons_append, List.cons_append, List.cons.injEq] at h
  rw [h.1, hob] at hoa
  exact (Option.some.inj hoa).symm

/-- A shape whose text starts with a name has a parameter for its head. -/
theorem Readable.head_eq_param {a : Shape} (h : a.Readable) (ho : a.opening = .name) :
    ∃ x, a.head = param x ∧ isIdentifier x := by
  induction a with
  | param x => exact ⟨x, rfl, h⟩
  | member s f ih => exact ih h.2.2 ho
  | index s i ih => exact ih h.2 ho
  | _ => simp [opening] at ho

/-! ### Reading back, by the size of the shape -/

/-- Shapes of size at most `n` are read back from their text, whatever
    closes it. -/
def ReadsBack (n : Nat) : Prop :=
  ∀ a b : Shape, a.size ≤ n → a.Readable → b.Readable → ∀ r₁ r₂, Closes r₁ →
    Closes r₂ → a.chars ++ r₁ = b.chars ++ r₂ → a = b ∧ r₁ = r₂

section Heads

variable {n : Nat} {r₁ r₂ : List Char}

theorem param_append_inj {x y : String} (hx : isIdentifier x) (hy : isIdentifier y)
    (h₁ : Follows r₁) (h₂ : Follows r₂)
    (h : (param x).chars ++ r₁ = (param y).chars ++ r₂) :
    param x = param y ∧ r₁ = r₂ := by
  obtain ⟨rfl, rfl⟩ := identifier_append_inj hx hy h₁.stops h₂.stops h
  exact ⟨rfl, rfl⟩

theorem literal_append_inj {t u : String} (ht : '\'' ∉ t.toList) (hu : '\'' ∉ u.toList)
    (h : (literal t).chars ++ r₁ = (literal u).chars ++ r₂) :
    literal t = literal u ∧ r₁ = r₂ := by
  simp only [chars, List.cons_append, List.cons.injEq, true_and, List.append_assoc,
    List.nil_append] at h
  -- the text is read up to the closing quote
  obtain ⟨htu, h⟩ := append_eq_append_of_stop (p := (· != '\''))
    (fun c hc => by simp only [bne_iff_ne, ne_eq]; rintro rfl; exact ht hc)
    (fun c hc => by simp only [bne_iff_ne, ne_eq]; rintro rfl; exact hu hc)
    (by simp) (by simp) h
  exact ⟨by rw [String.toList_inj.mp htu], (List.cons.inj h).2⟩

theorem not_append_inj (ih : ReadsBack n) {o o' : Shape} (hs : o.size ≤ n) (ho : o.Readable)
    (ho' : o'.Readable) (h₁ : Closes r₁) (h₂ : Closes r₂)
    (h : (not o).chars ++ r₁ = (not o').chars ++ r₂) : not o = not o' ∧ r₁ = r₂ := by
  simp only [chars, List.cons_append, List.cons.injEq, true_and] at h
  obtain ⟨rfl, rfl⟩ := ih o o' hs ho ho' r₁ r₂ h₁ h₂ h
  exact ⟨rfl, rfl⟩

theorem binary_append_inj (ih : ReadsBack n) {op op' : Op} {l r l' r' : Shape}
    (hs : (binary op l r).size ≤ n + 1) (ha : (binary op l r).Readable)
    (hb : (binary op' l' r').Readable)
    (h : (binary op l r).chars ++ r₁ = (binary op' l' r').chars ++ r₂) :
    binary op l r = binary op' l' r' ∧ r₁ = r₂ := by
  simp only [size] at hs
  simp only [chars, List.cons_append, List.cons.injEq, true_and, List.append_assoc] at h
  -- the left operand is closed by the blank before the token
  obtain ⟨rfl, hrest⟩ := ih l l' (by omega) ha.1 hb.1 _ _ (by simp [Closes]) (by simp [Closes])
    h
  simp only [List.cons.injEq, true_and] at hrest
  obtain ⟨rfl, hright⟩ := Op.token_append_inj hrest
  -- the right operand is closed by the parenthesis
  obtain ⟨rfl, hclose⟩ := ih r r' (by omega) ha.2 hb.2 _ _ (by simp [Closes]) (by simp [Closes])
    hright
  exact ⟨rfl, (List.cons.inj hclose).2⟩

/-- A name of a header is read up to the comma or parenthesis after it. -/
theorem name_sep_inj {x y : String} {a b : Char} {u v : List Char} (hx : isIdentifier x)
    (hy : isIdentifier y) (ha : a ∈ [',', ')']) (hb : b ∈ [',', ')'])
    (h : x.toList ++ a :: u = y.toList ++ b :: v) : x = y ∧ a = b ∧ u = v := by
  have stop : ∀ c ∈ [',', ')'], identChar c = false := by
    intro c hc
    simp only [List.mem_cons, List.not_mem_nil, or_false] at hc
    rcases hc with rfl | rfl <;> exact identChar_eq_false (by simp)
  obtain ⟨rfl, hsep⟩ := identifier_append_inj hx hy (by simpa using stop a ha)
    (by simpa using stop b hb) h
  exact ⟨rfl, List.cons.inj hsep⟩

/-- The names of a header, followed by its closing parenthesis, are read to
    their end. -/
theorem namesChars_append_inj :
    ∀ {xs ys : List String} {u v : List Char}, (∀ x ∈ xs, isIdentifier x) →
      (∀ y ∈ ys, isIdentifier y) → namesChars xs ++ ')' :: u = namesChars ys ++ ')' :: v →
      xs = ys ∧ u = v
  | [], [], _, _, _, _, h => ⟨rfl, (List.cons.inj h).2⟩
  | [], y :: ys, _, _, _, hy, h => by
    cases ys <;> exact absurd h.symm (by
      simp only [namesChars, List.append_assoc]
      exact identifier_append_ne (hy y (by simp)) (identChar_eq_false (by simp)))
  | x :: xs, [], _, _, hx, _, h => by
    cases xs <;> exact absurd h (by
      simp only [namesChars, List.append_assoc]
      exact identifier_append_ne (hx x (by simp)) (identChar_eq_false (by simp)))
  | [x], [y], _, _, hx, hy, h => by
    simp only [namesChars] at h
    obtain ⟨rfl, -, rfl⟩ := name_sep_inj (hx x (by simp)) (hy y (by simp)) (by simp) (by simp) h
    exact ⟨rfl, rfl⟩
  | [x], y :: y' :: ys, _, _, hx, hy, h => by
    -- the last name against one followed by a comma
    simp only [namesChars, List.append_assoc, List.cons_append] at h
    obtain ⟨-, hsep, -⟩ := name_sep_inj (hx x (by simp)) (hy y (by simp)) (by simp) (by simp) h
    cases hsep
  | x :: x' :: xs, [y], _, _, hx, hy, h => by
    simp only [namesChars, List.append_assoc, List.cons_append] at h
    obtain ⟨-, hsep, -⟩ := name_sep_inj (hx x (by simp)) (hy y (by simp)) (by simp) (by simp) h
    cases hsep
  | x :: x' :: xs, y :: y' :: ys, _, _, hx, hy, h => by
    simp only [namesChars, List.append_assoc, List.cons_append] at h
    obtain ⟨rfl, -, hrest⟩ := name_sep_inj (hx x (by simp)) (hy y (by simp)) (by simp) (by simp)
      h
    obtain ⟨hxs, rfl⟩ := namesChars_append_inj (fun z hz => hx z (by simp [hz]))
      (fun z hz => hy z (by simp [hz])) hrest
    exact ⟨by rw [hxs], rfl⟩

/-- A header's first name is followed by a comma or its closing
    parenthesis. -/
theorem namesChars_cons_append (y : String) (ys : List String) (v : List Char) :
    ∃ w, namesChars (y :: ys) ++ ')' :: v = y.toList ++ w ∧
      ∀ c ∈ w.head?, c = ')' ∨ c = ',' := by
  cases ys with
  | nil => exact ⟨')' :: v, rfl, by simp⟩
  | cons y' ys =>
    exact ⟨',' :: (namesChars (y' :: ys) ++ ')' :: v), by simp [namesChars], by simp⟩

theorem lambda_append_inj (ih : ReadsBack n) {xs ys : List String} {b b' : Shape}
    (hs : b.size ≤ n) (ha : (lambda xs b).Readable) (hb : (lambda ys b').Readable)
    (h₁ : Closes r₁) (h₂ : Closes r₂)
    (h : (lambda xs b).chars ++ r₁ = (lambda ys b').chars ++ r₂) :
    lambda xs b = lambda ys b' ∧ r₁ = r₂ := by
  simp only [chars, List.cons_append, List.cons.injEq, true_and, List.append_assoc] at h
  obtain ⟨rfl, hbody⟩ := namesChars_append_inj ha.1 hb.1 h
  simp only [List.cons.injEq, true_and] at hbody
  obtain ⟨rfl, rfl⟩ := ih b b' hs ha.2 hb.2 r₁ r₂ h₁ h₂ hbody
  exact ⟨rfl, rfl⟩

/-- An operation is not a lambda: after the parenthesis, a lambda's first
    name is followed by a comma or a parenthesis, while an operand that starts
    with a name is a parameter under reads and then a blank. -/
theorem binary_append_ne_lambda {op : Op} {l r b : Shape} {ys : List String}
    (hl : l.Readable) (hys : ∀ y ∈ ys, isIdentifier y) :
    (binary op l r).chars ++ r₁ ≠ (lambda ys b).chars ++ r₂ := by
  intro h
  simp only [chars, List.cons_append, List.cons.injEq, true_and, List.append_assoc] at h
  obtain ⟨c, cs, hc, ho⟩ := hl.opens
  cases ys with
  | nil =>
    -- no operand starts with a closing parenthesis
    rw [hc] at h
    simp only [namesChars, List.nil_append, List.cons_append, List.cons.injEq] at h
    simp [h.1, Opening.of, identChar_eq_false] at ho
  | cons y ys =>
    obtain ⟨w, hw, hsep⟩ := namesChars_cons_append y ys _
    rw [hw] at h
    -- the operand starts with a name, so it is a parameter under reads
    obtain ⟨hne, hid⟩ := isIdentifier_toList (hys y (by simp))
    obtain ⟨d, ds, hy⟩ := List.exists_cons_of_ne_nil hne
    have hcd : c = d := by
      rw [hc, hy, List.cons_append, List.cons_append, List.cons.injEq] at h
      exact h.1
    have hlc : l.opening = .name := by
      rw [hcd, Opening.of, if_pos (hid d (by simp [hy]))] at ho
      exact (Option.some.inj ho).symm
    obtain ⟨z, hz, hzid⟩ := hl.head_eq_param hlc
    rw [chars_head_chain l, hz, chars, List.append_assoc] at h
    -- the name is followed by a read or a blank on one side, a comma or a
    -- parenthesis on the other
    obtain ⟨e, t, het, he⟩ := Postfix.chain_blank_cons l.chain _
    rw [het] at h
    obtain ⟨-, rfl⟩ := identifier_append_inj hzid (hys y (by simp))
      (by simp only [List.head?_cons, Option.mem_def, Option.some.injEq, forall_eq']
          exact identChar_eq_false (by rcases he with rfl | rfl | rfl <;> simp))
      (fun c hc => identChar_eq_false (by rcases hsep c hc with rfl | rfl <;> simp)) h
    rcases hsep e (by simp) with rfl | rfl <;> simp at he

/-- Heads, each followed by text that may follow it, are read to their end;
    the text after a prefixed head closes it. The operands are read by
    `ih`. -/
theorem head_append_inj (ih : ReadsBack n) {a b : Shape} (hs : a.size ≤ n + 1)
    (ha : a.isPostfix = false) (hb : b.isPostfix = false) (hra : a.Readable) (hrb : b.Readable)
    (hf₁ : Follows r₁) (hf₂ : Follows r₂) (hc₁ : a.prefixed → Closes r₁)
    (hc₂ : b.prefixed → Closes r₂) (h : a.chars ++ r₁ = b.chars ++ r₂) :
    a = b ∧ r₁ = r₂ := by
  -- the first character tells the kind, up to operations and lambdas
  have hop := opening_eq hra hrb h
  cases a <;> cases b <;> simp only [opening, isPostfix, reduceCtorEq] at hop ha hb
  case param.param => exact param_append_inj hra hrb hf₁ hf₂ h
  case literal.literal => exact literal_append_inj hra hrb h
  case not.not =>
    exact not_append_inj ih (by simp only [size] at hs; omega) hra hrb (hc₁ rfl) (hc₂ rfl) h
  case binary.binary => exact binary_append_inj ih hs hra hrb h
  case binary.lambda => exact absurd h (binary_append_ne_lambda hra.1 hrb.1)
  case lambda.binary => exact absurd h.symm (binary_append_ne_lambda hrb.1 hra.1)
  case lambda.lambda =>
    exact lambda_append_inj ih (by simp only [size] at hs; omega) hra hrb (hc₁ rfl) (hc₂ rfl) h

end Heads

/-- Every shape is read back from its text, whatever closes it: by strong
    induction on the size, splitting each shape into its head and the reads
    above it. -/
theorem readsBack : ∀ n, ReadsBack n
  | 0 => fun a _ hs => absurd (size_pos a) (by omega)
  | n + 1 => by
    intro a b hs hra hrb r₁ r₂ hc₁ hc₂ h
    rw [chars_head_chain a, chars_head_chain b, List.append_assoc, List.append_assoc] at h
    obtain ⟨hh, hrest⟩ := head_append_inj (readsBack n) (Nat.le_trans (size_head_le a) hs)
      (isPostfix_head a) (isPostfix_head b) hra.head hrb.head
      (Postfix.follows_chain a.chain hc₁) (Postfix.follows_chain b.chain hc₂)
      (hra.closes_chain hc₁) (hrb.closes_chain hc₂) h
    obtain ⟨hc, rfl⟩ := Postfix.chain_append_inj hra.chain hrb.chain hc₁ hc₂ hrest
    exact ⟨by rw [← extend_head_chain a, ← extend_head_chain b, hh, hc], rfl⟩

/-- Readable shapes whose texts, each followed by text that closes an
    operand, spell the same characters are equal, and so are the texts after
    them. -/
theorem chars_append_inj {a b : Shape} (ha : a.Readable) (hb : b.Readable)
    {r₁ r₂ : List Char} (h₁ : Closes r₁) (h₂ : Closes r₂)
    (h : a.chars ++ r₁ = b.chars ++ r₂) : a = b ∧ r₁ = r₂ :=
  readsBack a.size a b (Nat.le_refl _) ha hb r₁ r₂ h₁ h₂ h

theorem chars_inj {a b : Shape} (ha : a.Readable) (hb : b.Readable) (h : a.chars = b.chars) :
    a = b :=
  (chars_append_inj ha hb (show Closes [] by simp [Closes]) (show Closes [] by simp [Closes])
    (by simpa using h)).1

/-- The texts of the literals of a shape. -/
def literals : Shape → List String
  | param _ => []
  | literal t => [t]
  | member s _ | index s _ | not s => s.literals
  | binary _ l r => l.literals ++ r.literals
  | lambda _ b => b.literals

/-- The sources the fields of a shape are read from. -/
def fieldSources : Shape → List Shape
  | param _ | literal _ => []
  | member s _ => s :: s.fieldSources
  | index s _ | not s => s.fieldSources
  | binary _ l r => l.fieldSources ++ r.fieldSources
  | lambda _ b => b.fieldSources

end Shape

namespace Node

/-- The shape of a tree: views dropped, a parameter by its name and a value
    by its literal text. -/
def shape (c : Catalog) : Node → Shape
  | param p => .param p.name
  | value _ v => .literal (v.literal c)
  | member _ s f => .member (shape c s) f
  | index _ s i => .index (shape c s) i
  | not o => .not (shape c o)
  | equal l r => .binary .equal (shape c l) (shape c r)
  | and l r => .binary .and (shape c l) (shape c r)
  | or l r => .binary .or (shape c l) (shape c r)
  | lambda _ ps b => .lambda (ps.map (·.name)) (shape c b)
  | view _ n => shape c n

/-- The header's names, as the text joins them. -/
theorem intercalate_names {α : Type} (f : α → String) :
    ∀ xs : List α, [','].intercalate (xs.map (String.toList ∘ f)) = namesChars (xs.map f)
  | [] => rfl
  | [x] => by simp [namesChars]
  | x :: y :: xs => by
    have ih := intercalate_names f (y :: xs)
    simp only [List.map_cons, Function.comp_apply] at ih
    simp [List.intercalate_cons_cons, namesChars, ih]

/-- The text of a tree spells the text of its shape. -/
theorem compile_toList (c : Catalog) (n : Node) : (n.compile c).toList = (n.shape c).chars := by
  induction n with
  | param p => rfl
  | value t v => simp [compile, shape, Shape.chars]
  | member t s f ih | index t s i ih | not o ih =>
    simp [compile, shape, Shape.chars, ih, Nat.toList_repr]
  | equal l r ihl ihr | and l r ihl ihr | or l r ihl ihr =>
    simp [compile, shape, Shape.chars, Op.token, ihl, ihr]
  | lambda t ps b ih => simp [compile, shape, Shape.chars, ih, intercalate_names]
  | view t n ih => exact ih

@[simp] theorem shape_erase (c : Catalog) (n : Node) : n.erase.shape c = n.shape c := by
  induction n with
  | lambda t ps b ih => simp [erase, shape, ih, Function.comp_def, Param.erase]
  | _ => simp_all [erase, shape, Param.erase]

theorem prefixed_shape_eq_false (c : Catalog) {n : Node}
    (h : n.kind ∈ [.parameter, .value, .member, .arrayIndex]) : (n.shape c).prefixed = false := by
  induction n with
  | view t n ih => exact ih h
  | _ => simp_all [kind, shape, Shape.prefixed]

/-- The tree a node document denotes has a readable shape when its literal
    texts hold no quote and it reads no field after a negation or a lambda:
    the grammar of documents gives the rest. -/
theorem ArgOf.readable {c : Catalog} {k : Kind} {a : Value} {e : Node} (h : ArgOf k a e)
    (hq : ∀ t ∈ (e.shape c).literals, '\'' ∉ t.toList)
    (hf : ∀ s ∈ (e.shape c).fieldSources, s.prefixed = false) : (e.shape c).Readable := by
  induction h with
  | param hid => exact hid
  | value => exact hq _ (by simp [shape, Shape.literals])
  | member _ _ hid _ _ ih =>
    exact ⟨hf _ (by simp [shape, Shape.fieldSources]), hid,
      ih hq (fun s hs => hf s (by simp [shape, Shape.fieldSources, hs]))⟩
  | arrayIndex _ _ _ hs hk ih =>
    exact ⟨prefixed_shape_eq_false c (by rw [hs.kind_eq]; exact hk), ih hq hf⟩
  | not _ _ _ ih => exact ih hq hf
  | equal _ _ _ _ _ _ _ ihl ihr | and _ _ _ _ _ _ _ ihl ihr | or _ _ _ _ _ _ _ ihl ihr =>
    exact ⟨ihl (fun t ht => hq t (by simp [shape, Shape.literals, ht]))
        (fun s hs => hf s (by simp [shape, Shape.fieldSources, hs])),
      ihr (fun t ht => hq t (by simp [shape, Shape.literals, ht]))
        (fun s hs => hf s (by simp [shape, Shape.fieldSources, hs]))⟩
  | lambda _ _ _ _ hids _ _ ih => exact ⟨by simpa [shape] using hids, ih hq hf⟩

/-- A made tree's erasure is denoted by a node document. -/
theorem Made.docOf {n : Node} (h : n.Made) : ∃ d, DocOf d n.erase := by
  rcases h with ⟨c, inst, hb⟩ | ⟨d, hd⟩
  · exact ⟨n.toDoc, hb.checked.docOf⟩
  · exact ⟨d, fromDoc_sound hd⟩

theorem Made.readable {c : Catalog} {n : Node} (h : n.Made)
    (hq : ∀ t ∈ (n.shape c).literals, '\'' ∉ t.toList)
    (hf : ∀ s ∈ (n.shape c).fieldSources, s.prefixed = false) : (n.shape c).Readable := by
  obtain ⟨d, k, a, -, harg⟩ := h.docOf
  simpa using harg.readable (c := c) (by simpa using hq) (by simpa using hf)

/-- On made trees whose literal texts hold no quote and that read no field
    after a negation or a lambda, the text determines the shape: equal texts
    are exactly equal shapes, and equal fingerprints are equal shapes or a
    collision of the hash on two different texts. -/
theorem Made.compile_eq_iff {c : Catalog} {n₁ n₂ : Node} (h₁ : n₁.Made) (h₂ : n₂.Made)
    (hq₁ : ∀ t ∈ (n₁.shape c).literals, '\'' ∉ t.toList)
    (hq₂ : ∀ t ∈ (n₂.shape c).literals, '\'' ∉ t.toList)
    (hf₁ : ∀ s ∈ (n₁.shape c).fieldSources, s.prefixed = false)
    (hf₂ : ∀ s ∈ (n₂.shape c).fieldSources, s.prefixed = false) :
    (n₁.compile c = n₂.compile c ↔ n₁.shape c = n₂.shape c) ∧
      (n₁.fingerprint c = n₂.fingerprint c → n₁.shape c = n₂.shape c ∨
        n₁.compile c ≠ n₂.compile c ∧
          Hash.xxh3Text (n₁.compile c) = Hash.xxh3Text (n₂.compile c)) := by
  have key : n₁.compile c = n₂.compile c ↔ n₁.shape c = n₂.shape c := by
    constructor
    · intro h
      apply Shape.chars_inj (h₁.readable hq₁ hf₁) (h₂.readable hq₂ hf₂)
      rw [← compile_toList, ← compile_toList, h]
    · intro h
      apply String.toList_inj.mp
      rw [compile_toList, compile_toList, h]
  refine ⟨key, fun hfp => ?_⟩
  by_cases hc : n₁.compile c = n₂.compile c
  · exact .inl (key.mp hc)
  · exact .inr ⟨hc, hfp⟩

set_option maxRecDepth 20000 in
/-- A negated field read, read from a document and built by the constructors
    with other types and numbers: one text and one shape. -/
theorem Made.compile_eq_iff_not_member :
    Made (.not (.view .bool (.member .any (.param ⟨"x", .any, 0⟩) "f"))) ∧
    Made (.not (.member .bool (.param ⟨"x", .any, 7⟩) "f")) ∧
    ((Node.not (.view .bool (.member .any (.param ⟨"x", .any, 0⟩) "f"))).compile {} =
        (Node.not (.member .bool (.param ⟨"x", .any, 7⟩) "f")).compile {} ↔
      (Node.not (.view .bool (.member .any (.param ⟨"x", .any, 0⟩) "f"))).shape {} =
        (Node.not (.member .bool (.param ⟨"x", .any, 7⟩) "f")).shape {}) :=
  have h₁ : Made (.not (.view .bool (.member .any (.param ⟨"x", .any, 0⟩) "f"))) :=
    .inr ⟨docMap [("not", docMap [("member", docMap [("source",
      docMap [("parameter", .ofString "x")]), ("field", .ofString "f")])])], rfl⟩
  have h₂ : Made (.not (.member .bool (.param ⟨"x", .any, 7⟩) "f")) :=
    .inl ⟨{}, fun _ => ⟨"x", .any, 7⟩,
      .not (.member (m := .bool) (f := "f") (.param rfl rfl) rfl) rfl rfl⟩
  ⟨h₁, h₂, (Made.compile_eq_iff h₁ h₂ (by simp [shape, Shape.literals])
    (by simp [shape, Shape.literals]) (by simp [shape, Shape.fieldSources, Shape.prefixed])
    (by simp [shape, Shape.fieldSources, Shape.prefixed])).1⟩

set_option maxRecDepth 20000 in
/-- A field read after a negation breaks this: the negation of a field read
    and the field read of a negation, both read from documents and free of
    literals, are both written `!x.f`. -/
theorem compile_not_member_eq :
    Made (.not (.view .bool (.member .any (.param ⟨"x", .any, 0⟩) "f"))) ∧
    Made (.member .any (.view .any (.not (.view .bool (.param ⟨"x", .any, 0⟩)))) "f") ∧
    ((Node.not (.view .bool (.member .any (.param ⟨"x", .any, 0⟩) "f"))).shape {}).literals = [] ∧
    ((Node.member .any (.view .any (.not (.view .bool (.param ⟨"x", .any, 0⟩)))) "f").shape
      {}).literals = [] ∧
    (Node.not (.view .bool (.member .any (.param ⟨"x", .any, 0⟩) "f"))).compile {} = "!x.f" ∧
    (Node.member .any (.view .any (.not (.view .bool (.param ⟨"x", .any, 0⟩)))) "f").compile
      {} = "!x.f" ∧
    (Node.not (.view .bool (.member .any (.param ⟨"x", .any, 0⟩) "f"))).shape {} ≠
      (Node.member .any (.view .any (.not (.view .bool (.param ⟨"x", .any, 0⟩)))) "f").shape {} :=
  ⟨.inr ⟨docMap [("not", docMap [("member", docMap [("source",
      docMap [("parameter", .ofString "x")]), ("field", .ofString "f")])])], rfl⟩,
    .inr ⟨docMap [("member", docMap [("source", docMap [("not",
      docMap [("parameter", .ofString "x")])]), ("field", .ofString "f")])], rfl⟩,
    rfl, rfl, by decide, by decide, by decide⟩

end Node

end ExprTree
