import Parley.Proofs.Eval.InStep
import Parley.Vocabulary

/-!
# The stock vocabulary and functions from outside

Stock functions pass values on, but they do not look at the functions inside of them. So paired
arguments are answered with paired values, and the world is used in the same way
(`Parley.Vocabulary.answer_paired`). Besides, they always have an answer.

Two hosts that answer the calls of foreign functions in corresponding ways therefore answer all
calls in corresponding ways (`Parley.Vocabulary.hosts_host`). And where there are no foreign
functions to begin with, none come in, so that no call fails (`Parley.Vocabulary.hosts_alone`).
-/

namespace Parley

namespace Vocabulary

theorem choose_cons {α : Type} (w : World) (a : α) (rest : List α) :
    choose w (a :: rest) =
      ((a :: rest)[(w.draw rest.length).1]?, (w.draw rest.length).2) := rfl

section Answers

variable {R : Callable → Callable → Prop} {arguments arguments' : List Value}
  (h : List.Forall₂ (Value.Paired R) arguments arguments')

include h

/-! ### Arguments -/

theorem firstText?_eq : firstText? arguments = firstText? arguments' := by
  cases h with
  | nil => rfl
  | cons hv _ => exact hv.string?_eq

theorem flag_eq (position : Nat) : flag arguments position = flag arguments' position := by
  have hget := rel_getElem? h position
  unfold flag
  generalize arguments[position]? = found at hget
  generalize arguments'[position]? = found' at hget
  cases hget with
  | none => rfl
  | some hv => exact hv.truthy_eq

/-- What is read off an argument is the same if it is the same for paired values. -/
theorem argument_bind_eq {α : Type} {read : Value → Option α}
    (hread : ∀ {v v' : Value}, v.Paired R v' → read v = read v') (position : Nat) :
    arguments[position]?.bind read = arguments'[position]?.bind read := by
  have hget := rel_getElem? h position
  generalize arguments[position]? = found at hget
  generalize arguments'[position]? = found' at hget
  cases hget with
  | none => rfl
  | some hv => exact hread hv

/-! ### Answers -/

omit h in
/-- Of lists of the same length the items at the same position are drawn. -/
theorem choose_rel {α β : Type} {S : α → β → Prop} {as : List α} {bs : List β}
    (h : List.Forall₂ S as bs) (w : World) :
    Option.Rel S (choose w as).1 (choose w bs).1 ∧ (choose w as).2 = (choose w bs).2 := by
  cases h with
  | nil => exact ⟨.none, rfl⟩
  | @cons a b as bs hab hrest =>
    rw [choose_cons, choose_cons, ← hrest.length_eq]
    exact ⟨rel_getElem? (.cons hab hrest) _, rfl⟩

/-- **An item of an array** is what it was in the array. -/
theorem pick_paired (w : World) :
    (pick arguments w).1.Paired R (pick arguments' w).1 ∧
      (pick arguments w).2 = (pick arguments' w).2 := by
  cases h with
  | nil => exact ⟨.string _, rfl⟩
  | cons hv _ =>
    cases hv with
    | array hitems =>
      obtain ⟨hitem, hworld⟩ := choose_rel hitems w
      refine ⟨?_, hworld⟩
      unfold pick
      dsimp only [List.head?_cons]
      generalize (choose w _).1 = item at hitem ⊢
      generalize (choose w _).1 = item' at hitem ⊢
      cases hitem with
      | none => exact .string _
      | some hv => exact hv
    | _ => exact ⟨.string _, rfl⟩

theorem randomInt_paired (w : World) :
    (randomInt arguments w).1.Paired R (randomInt arguments' w).1 ∧
      (randomInt arguments w).2 = (randomInt arguments' w).2 := by
  unfold randomInt
  rw [argument_bind_eq h Value.Paired.integer?_eq 0, argument_bind_eq h Value.Paired.integer?_eq 1]
  split
  · exact ⟨.integer _, rfl⟩
  · exact ⟨.string _, rfl⟩

theorem relative_paired (name : String) (seconds : Moment → Int) (now : Moment) :
    (relative name seconds arguments now).Paired R (relative name seconds arguments' now) := by
  unfold relative
  rw [firstText?_eq h, flag_eq h]
  split
  · exact .string _
  · split <;> exact .string _

theorem uptime_paired (started clock : Nat) :
    (uptime started arguments clock).Paired R (uptime started arguments' clock) := by
  unfold uptime
  rw [flag_eq h]
  exact .string _

theorem urlEncode_paired : (urlEncode arguments).Paired R (urlEncode arguments') := by
  cases h with
  | nil => exact .string _
  | cons hv _ =>
    unfold urlEncode
    dsimp only [List.head?_cons, Option.map_some]
    rw [hv.text_eq]
    exact .string _

theorem fetchText_paired (client : Client) (w : World) :
    (fetchText client arguments w).Paired R (fetchText client arguments' w) := by
  unfold fetchText
  rw [firstText?_eq h]
  split
  · exact .string _
  · split <;> exact .string _

/-- **A document** from the network brings no functions in. -/
theorem fetchJson_paired (client : Client) (w : World) :
    (fetchJson client arguments w).Paired R (fetchJson client arguments' w) := by
  unfold fetchJson
  rw [firstText?_eq h]
  split
  · exact .string _
  · split
    · split
      · exact Value.paired_self_of_functions_eq_nil (Value.functions_ofJson _)
      · exact .string _
    · exact .string _

theorem fetchHtml_paired (client : Client) (w : World) :
    (fetchHtml client arguments w).Paired R (fetchHtml client arguments' w) := by
  unfold fetchHtml
  rw [firstText?_eq h, argument_bind_eq h Value.Paired.string?_eq 1]
  split
  · exact .string _
  · split
    · exact .string _
    · split
      · exact .string _
      · split <;> exact .string _

/-- **Stock functions answer paired arguments with paired values**, and leave the same world. -/
theorem answer_paired (b : Builtin) (w : World) :
    (answer b arguments w).1.Paired R (answer b arguments' w).1 ∧
      (answer b arguments w).2 = (answer b arguments' w).2 := by
  cases b with
  | pick => exact pick_paired h w
  | randomInt => exact randomInt_paired h w
  | eightBall answers => exact ⟨.string _, rfl⟩
  | timeUntil => exact ⟨relative_paired h _ _ _, rfl⟩
  | timeSince => exact ⟨relative_paired h _ _ _, rfl⟩
  | uptime started => exact ⟨uptime_paired h _ _, rfl⟩
  | urlEncode => exact ⟨urlEncode_paired h, rfl⟩
  | fetchText client => exact ⟨fetchText_paired h _ _, rfl⟩
  | fetchJson client => exact ⟨fetchJson_paired h _ _, rfl⟩
  | fetchHtml client => exact ⟨fetchHtml_paired h _ _, rfl⟩

end Answers

/-! ### Hosts with functions from outside -/

/-- Stock functions of a class correspond to themselves, and foreign ones by their numbers. -/
inductive Pairs (stock : Builtin → Prop) (numbers : Nat → Nat → Prop) :
    Callable → Callable → Prop
  | stock {b : Builtin} : stock b → Pairs stock numbers (.stock b) (.stock b)
  | foreign {n n' : Nat} : numbers n n' → Pairs stock numbers (.foreign n) (.foreign n')

theorem oneToOne_pairs {stock : Builtin → Prop} {numbers : Nat → Nat → Prop}
    (h : Relator.BiUnique numbers) : Relator.BiUnique (Pairs stock numbers) := by
  constructor
  · intro f g f' hf hg
    cases hf with
    | stock _ =>
      cases hg
      rfl
    | foreign hn =>
      cases hg with
      | foreign hm => exact congrArg Callable.foreign (h.1 hn hm)
  · intro f f' g' hf hg
    cases hf with
    | stock _ =>
      cases hg
      rfl
    | foreign hn =>
      cases hg with
      | foreign hm => exact congrArg Callable.foreign (h.2 hn hm)

section Hosts

variable {σ τ : Type} (stock : Builtin → Prop) {numbers : Nat → Nat → Prop}
  (oneToOne : Relator.BiUnique numbers) (failures : CallError → CallError → Prop)
  (states : σ → τ → Prop)

/-- **How hosts with the stock vocabulary correspond**, in terms of the foreign functions. Both see
the same world. -/
def pairing : Pairing (World × σ) (World × τ) where
  functions := Pairs stock numbers
  oneToOne := oneToOne_pairs oneToOne
  failures := failures
  states s s' := s.1 = s'.1 ∧ states s.2 s'.2

/-- **The hosts answer alike** if the foreign functions do: nothing is to be said of the stock
functions. -/
theorem hosts_host {foreign : Foreign σ} {foreign' : Foreign τ}
    (h : ∀ {n n' : Nat} {arguments arguments' : List Value} {s : σ} {s' : τ}, numbers n n' →
      List.Forall₂ (Value.Paired (Pairs stock numbers)) arguments arguments' → states s s' →
      PairedOutcomes (Pairs stock numbers) failures (foreign n arguments s).1
          (foreign' n' arguments' s').1 ∧
        states (foreign n arguments s).2 (foreign' n' arguments' s').2) :
    (pairing stock oneToOne failures states).Hosts (host foreign) (host foreign') := by
  rintro f f' arguments arguments' ⟨w, s⟩ ⟨_, s'⟩ hf harguments ⟨rfl, hs⟩
  cases hf with
  | @stock b _ =>
    obtain ⟨hanswer, hworld⟩ := answer_paired harguments b w
    exact ⟨.ok hanswer, hworld, hs⟩
  | foreign hn =>
    obtain ⟨hanswer, hs'⟩ := h hn harguments hs
    exact ⟨hanswer, rfl, hs'⟩

end Hosts

/-- The vocabulary itself is paired if all of its functions are of the class. -/
theorem entries_paired {settings : Settings} {started : Nat} {stock : Builtin → Prop}
    (h : ∀ b ∈ builtins settings started, stock b.2) (numbers : Nat → Nat → Prop) :
    (entries settings started).Paired (Pairs stock numbers) (entries settings started) := by
  refine Object.ofList_paired (List.forall₂_same.2 fun entry hentry => ?_)
  obtain ⟨b, hb, rfl⟩ := List.mem_map.1 hentry
  exact .mk b.1 (.function (.stock (h b hb)))

/-! ### Stock functions alone -/

/-- The function is one of the vocabulary for the settings. -/
def InStock (settings : Settings) (started : Nat) (b : Builtin) : Prop :=
  ∃ name, (name, b) ∈ builtins settings started

section Alone

variable {σ : Type}

/-- **Calls of stock functions are answered from the vocabulary.** Each call may see a world of its
own: nothing is said of how time, chance and the network go on from one call to the next. -/
def Answers (host : Host σ) : Prop :=
  ∀ (b : Builtin) (arguments : List Value) (s : σ),
    ∃ w, (host.call (.stock b) arguments s).1 = .ok (answer b arguments w).1

theorem answers_host (foreign : Foreign σ) : Answers (host foreign) :=
  fun _ _ s => ⟨s.1, rfl⟩

/-- A host corresponds to itself also in this way: the stock functions of a class are the only
ones there are, and no function fails. -/
def alone (σ : Type) (stock : Builtin → Prop) : Pairing σ σ where
  functions := Pairs stock fun _ _ => False
  oneToOne := oneToOne_pairs ⟨fun _ _ _ h => h.elim, fun _ _ _ h => h.elim⟩
  failures _ _ := False
  states := Eq

/-- All functions of a value that is paired in this way are of the class. -/
theorem exists_stock_of_mem_functions {stock : Builtin → Prop} {v v' : Value}
    (h : v.Paired (Pairs stock fun _ _ => False) v') {f : Callable} (hf : f ∈ v.functions) :
    ∃ b, stock b ∧ f = .stock b := by
  obtain ⟨f', hpairs⟩ := Value.exists_of_mem_functions v h f hf
  cases hpairs with
  | @stock b hb => exact ⟨b, hb, rfl⟩
  | foreign hn => exact hn.elim

/-- **Among themselves the stock functions stay stock functions**, and they do not fail. -/
theorem hosts_alone {host : Host σ} (hhost : Answers host) (stock : Builtin → Prop) :
    (alone σ stock).Hosts host host := by
  rintro f f' arguments arguments' s _ hf harguments rfl
  cases hf with
  | @stock b _ =>
    have heq : ∀ {f f' : Callable}, Pairs stock (fun _ _ => False) f f' → f = f' := by
      rintro f f' (_ | hn)
      · rfl
      · exact hn.elim
    obtain rfl := Value.eq_of_items_paired heq arguments harguments
    obtain ⟨w, hw⟩ := hhost b arguments s
    rw [hw]
    exact ⟨.ok (answer_paired harguments b w).1, rfl⟩
  | foreign hn => exact hn.elim

end Alone

end Vocabulary

end Parley
