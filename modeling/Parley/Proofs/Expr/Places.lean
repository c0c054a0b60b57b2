import Parley.Proofs.Grammar

/-!
# The places of an expression

A *place* of a tree is a node at which an evaluation looks something up, reads a number or
applies something: the name at the head of a path, the name of an entry, an operator, the
bracket that opens an index or the arguments of a call. `Parley.Expr.places` lists them in the
order of the source and at any depth, also inside of groups, arrays, indexes and arguments.

Two things are read off this list. The names at the heads (`Parley.Expr.heads`) are all that an
expression wants of its context, and what goes wrong in an evaluation goes wrong at one of the
places. In a derivation each place is a token of the source, of the kind that the place is for
(`Parley.Expr.places_stand`).
-/

namespace Parley

/-- **A place** of a tree, with the token that stands there. -/
inductive Place where
  /-- The name at the head of a path, which is looked up in the context. -/
  | head (name : Token)
  /-- The name of an entry, which is looked up in an object. -/
  | entry (name : Token)
  | number (t : Token)
  | operator (level : Level) (op : Token)
  /-- The bracket that opens the index of an item. -/
  | item (opening : Token)
  /-- The bracket that opens the arguments of a call. -/
  | call (opening : Token)
  /-- A value that the source lacks; there is no token. -/
  | missing (column : Nat)
deriving DecidableEq, Repr

namespace Place

/-- The name that a place wants of the context. -/
def head? : Place → Option String
  | head name => some name.lexeme
  | _ => none

/-- The names that some places want of the context. -/
def heads (places : List Place) : List String :=
  places.filterMap head?

@[simp] theorem heads_append (ps qs : List Place) : heads (ps ++ qs) = heads ps ++ heads qs :=
  List.filterMap_append

end Place

/-! ### The list of all places -/

mutual

/-- **The places** of an expression, in the order of the source. -/
def Expr.places : Expr → List Place
  | .term t => t.places
  | .negation _ operand => operand.places
  | .binary level left operator right => left.places ++ .operator level operator :: right.places

/-- The places of a term. -/
def Term.places : Term → List Place
  | .string _ => []
  | .number t => [.number t]
  | .boolean _ => []
  | .array _ elements _ => Term.listPlaces elements
  | .group _ inner _ => inner.places
  | .path head links => .head head :: Link.chainPlaces links
  | .missing column => [.missing column]

/-- The places of several terms. -/
def Term.listPlaces : List Term → List Place
  | [] => []
  | t :: ts => t.places ++ Term.listPlaces ts

/-- The places of a chain of links. -/
def Link.chainPlaces : List Link → List Place
  | [] => []
  | l :: ls => l.places ++ Link.chainPlaces ls

/-- The places of a link. -/
def Link.places : Link → List Place
  | .entry _ name => [.entry name]
  | .item opening index _ => .item opening :: index.places
  | .call opening arguments _ => .call opening :: Term.listPlaces arguments

end

theorem Term.listPlaces_append (ts us : List Term) :
    Term.listPlaces (ts ++ us) = Term.listPlaces ts ++ Term.listPlaces us := by
  induction ts with
  | nil => rfl
  | cons t ts ih => rw [List.cons_append, Term.listPlaces, Term.listPlaces, ih, List.append_assoc]

theorem Link.chainPlaces_append (ls ms : List Link) :
    Link.chainPlaces (ls ++ ms) = Link.chainPlaces ls ++ Link.chainPlaces ms := by
  induction ls with
  | nil => rfl
  | cons l ls ih => rw [List.cons_append, Link.chainPlaces, Link.chainPlaces, ih, List.append_assoc]

/-- **The names that an expression mentions**: those at the heads of its paths, at any depth. The
names of entries are not among them. -/
def Expr.heads (e : Expr) : List String :=
  Place.heads e.places

/-! ### The tokens of the places -/

namespace Place

/-- The place is one of the tokens, and of the kind that it is for. -/
def StandsIn (ts : List Token) : Place → Prop
  | head name => name ∈ ts ∧ name.kind = .identifier
  | entry name => name ∈ ts ∧ name.kind = .identifier
  | number t => t ∈ ts ∧ t.kind = .number
  | operator level op => op ∈ ts ∧ level.accepts op.kind = true
  | item opening => opening ∈ ts ∧ opening.kind = .leftBracket
  | call opening => opening ∈ ts ∧ opening.kind = .leftParen
  | missing _ => False

theorem StandsIn.mono {p : Place} {ts us : List Token} (h : p.StandsIn ts) (hsub : ts ⊆ us) :
    p.StandsIn us := by
  cases p with
  | missing column => exact h
  | _ =>
    obtain ⟨hmem, hkind⟩ := h
    exact ⟨hsub hmem, hkind⟩

/-- All of some places are tokens of their kinds. -/
def AllStand (places : List Place) (ts : List Token) : Prop :=
  ∀ p ∈ places, p.StandsIn ts

namespace AllStand

variable {ps qs : List Place} {ts us : List Token}

theorem nil : AllStand [] ts := by
  intro p hp
  cases hp

theorem mono (h : AllStand ps ts) (hsub : ts ⊆ us) : AllStand ps us :=
  fun p hp => (h p hp).mono hsub

theorem cons {p : Place} (hp : p.StandsIn ts) (h : AllStand ps ts) : AllStand (p :: ps) ts :=
  List.forall_mem_cons.2 ⟨hp, h⟩

theorem append (h : AllStand ps ts) (h' : AllStand qs us) : AllStand (ps ++ qs) (ts ++ us) :=
  List.forall_mem_append.2
    ⟨h.mono (List.subset_append_left ts us), h'.mono (List.subset_append_right ts us)⟩

/-- Another token in front changes nothing. -/
theorem behind (h : AllStand ps ts) (t : Token) : AllStand ps (t :: ts) :=
  h.mono (List.subset_cons_self t ts)

theorem bracketed (h : AllStand ps ts) (opening closing : Token) :
    AllStand ps (opening :: (ts ++ [closing])) :=
  (h.mono (List.subset_append_left ts [closing])).behind opening

end AllStand

end Place

open Place (AllStand)

mutual

/-- **The places of a derivation are among its tokens.** -/
theorem Expr.places_stand : ∀ (e : Expr) {ts : List Token}, e.DerivationOf ts →
    AllStand e.places ts
  | .term t, _, .term h => t.places_stand h
  | .negation keyword operand, _, .negation _ _ h => (operand.places_stand h).behind keyword
  | .binary _ left op right, _, .binary hop _ _ h h' =>
    have hright := (right.places_stand h').behind op
    (left.places_stand h).append (.cons ⟨List.mem_cons_self, hop⟩ hright)

theorem Term.places_stand : ∀ (t : Term) {ts : List Token}, t.DerivationOf ts →
    AllStand t.places ts
  | .string _, _, .string _ => .nil
  | .number _, _, .number hk => .cons ⟨List.mem_cons_self, hk⟩ .nil
  | .boolean _, _, .boolean _ => .nil
  | .array opening elements closing, _, .array _ h _ =>
    (Term.listPlaces_stand elements h).bracketed opening closing
  | .group opening inner closing, _, .group _ h _ =>
    (inner.places_stand h).bracketed opening closing
  | .path head links, _, .path hk h =>
    .cons ⟨List.mem_cons_self, hk⟩ ((Link.chainPlaces_stand links h).behind head)

theorem Term.listPlaces_stand : ∀ (es : List Term) {ts : List Token}, Term.ListOf es ts →
    AllStand (Term.listPlaces es) ts
  | [], _, .nil => .nil
  | t :: more, _, .cons h hm => (t.places_stand h).append (Term.morePlaces_stand more hm)

theorem Term.morePlaces_stand : ∀ (es : List Term) {ts : List Token}, Term.MoreOf es ts →
    AllStand (Term.listPlaces es) ts
  | [], _, .nil => .nil
  | t :: more, comma :: _, .cons _ h hm =>
    ((t.places_stand h).append (Term.morePlaces_stand more hm)).behind comma

theorem Link.chainPlaces_stand : ∀ (ls : List Link) {ts : List Token}, Link.ChainOf ls ts →
    AllStand (Link.chainPlaces ls) ts
  | [], _, .nil => .nil
  | l :: ls, _, .cons h hs => (l.places_stand h).append (Link.chainPlaces_stand ls hs)

theorem Link.places_stand : ∀ (l : Link) {ts : List Token}, l.DerivationOf ts →
    AllStand l.places ts
  | .entry period _, _, .entry _ hn =>
    .cons ⟨List.mem_cons_of_mem period List.mem_cons_self, hn⟩ .nil
  | .item opening index closing, _, .item ho h _ =>
    .cons ⟨List.mem_cons_self, ho⟩ ((index.places_stand h).bracketed opening closing)
  | .call opening arguments closing, _, .call ho h _ =>
    .cons ⟨List.mem_cons_self, ho⟩
      ((Term.listPlaces_stand arguments h).bracketed opening closing)

end

end Parley
