import Nomenclator.Text.Parser

/-!
# What a parser gives

A fact about every value that a parser can give, whatever the text, is carried through each way of
making a parser from others. There is one lemma for each of them, so that a fact about a grammar is
read off its rules.
-/

namespace Nomenclator.Text.Parser

variable {α β : Type} {P : α → Prop} {Q : β → Prop} {p q : Parser α}

/-! ### What parsers do on a text -/

theorem bind_apply (p : Parser α) (f : α → Parser β) (text : List Char) :
    (p >>= f) text =
      match p text with
      | some (a, rest) => f a rest
      | none => none :=
  rfl

theorem orElse_apply (p q : Parser α) (text : List Char) :
    (p <|> q) text =
      match p text with
      | some result => some result
      | none => q text :=
  rfl

theorem upTo_succ_apply (p : Parser α) (limit : Nat) (text : List Char) :
    p.upTo (limit + 1) text =
      match p text with
      | some (a, rest) => (p.upTo limit rest).map fun (as, last) => (a :: as, last)
      | none => some ([], text) :=
  rfl

/-- Every value that a parser gives has a property. -/
def Gives (P : α → Prop) (p : Parser α) : Prop :=
  ∀ ⦃text : List Char⦄ ⦃a : α⦄ ⦃rest : List Char⦄, p text = some (a, rest) → P a

theorem gives_true (p : Parser α) : Gives (fun _ => True) p :=
  fun _ _ _ _ => trivial

/-! ### One parser after another -/

theorem gives_pure {a : α} (h : P a) : Gives P (pure a) := by
  intro text b rest hread
  obtain ⟨rfl, rfl⟩ := Prod.mk.inj (Option.some.inj hread)
  exact h

theorem gives_failure : Gives P failure :=
  fun _ _ _ hread => nomatch hread

/-- What the second parser gives may depend on what the first one has given. -/
theorem Gives.bind {f : α → Parser β} (h : Gives P p) (hf : ∀ a, P a → Gives Q (f a)) :
    Gives Q (p >>= f) := by
  intro text b last hread
  rw [bind_apply] at hread
  cases hfirst : p text with
  | none =>
    rw [hfirst] at hread
    cases hread
  | some result =>
    obtain ⟨a, rest⟩ := result
    rw [hfirst] at hread
    exact hf a (h hfirst) hread

/-- The first parser may give anything. -/
theorem gives_bind {f : α → Parser β} (hf : ∀ a, Gives Q (f a)) : Gives Q (p >>= f) :=
  (gives_true p).bind fun a _ => hf a

theorem Gives.map {f : α → β} (h : Gives P p) (hf : ∀ a, P a → Q (f a)) : Gives Q (f <$> p) :=
  h.bind fun a ha => gives_pure (hf a ha)

theorem Gives.seqRight {first : Parser β} (h : Gives P p) : Gives P (first *> p) :=
  gives_bind fun _ => h

theorem Gives.seqLeft {last : Parser β} (h : Gives P p) : Gives P (p <* last) :=
  h.bind fun _ ha => gives_bind fun _ => gives_pure ha

/-! ### Choice -/

theorem Gives.orElse (hp : Gives P p) (hq : Gives P q) : Gives P (p <|> q) := by
  intro text a rest hread
  rw [orElse_apply] at hread
  cases hfirst : p text with
  | none =>
    rw [hfirst] at hread
    exact hq hread
  | some result =>
    rw [hfirst] at hread
    exact hp (hfirst.trans hread)

theorem Gives.optional (h : Gives P p) : Gives (fun a? => ∀ a ∈ a?, P a) (optional p) :=
  (h.map fun _ ha _ hmem => Option.some.inj hmem ▸ ha).orElse
    (gives_pure fun _ hmem => nomatch hmem)

theorem gives_ofOption {a? : Option α} (h : ∀ a ∈ a?, P a) : Gives P (ofOption a?) := by
  cases a? with
  | none => exact gives_failure
  | some a => exact gives_pure (h a rfl)

/-! ### Repetition -/

theorem Gives.upTo (h : Gives P p) (limit : Nat) :
    Gives (fun as => ∀ a ∈ as, P a) (upTo p limit) := by
  induction limit with
  | zero => exact gives_pure fun _ hmem => nomatch hmem
  | succ limit ih =>
    intro text as last hread
    rw [upTo_succ_apply] at hread
    cases hfirst : p text with
    | none =>
      rw [hfirst] at hread
      obtain ⟨rfl, -⟩ := Prod.mk.inj (Option.some.inj hread)
      exact fun _ hmem => nomatch hmem
    | some result =>
      obtain ⟨a, rest⟩ := result
      rw [hfirst] at hread
      obtain ⟨⟨others, after⟩, hothers, heq⟩ := Option.map_eq_some_iff.mp hread
      obtain ⟨rfl, rfl⟩ := Prod.mk.inj heq
      exact List.forall_mem_cons.mpr ⟨h hfirst, ih hothers⟩

theorem Gives.many (h : Gives P p) : Gives (fun as => ∀ a ∈ as, P a) (many p) :=
  fun text _ _ hread => h.upTo text.length hread

theorem Gives.separatedBy {separator : Parser β} (h : Gives P p) :
    Gives (fun as => ∀ a ∈ as, P a) (separatedBy p separator) :=
  h.bind fun _ hfirst => h.seqRight.many.bind fun _ hrest =>
    gives_pure (List.forall_mem_cons.mpr ⟨hfirst, hrest⟩)

/-! ### Whole texts -/

theorem Gives.readAll? (h : Gives P p) {text : List Char} {a : α}
    (hread : p.readAll? text = some a) : P a := by
  rw [Parser.readAll?] at hread
  split at hread
  · rename_i value hvalue
    exact Option.some.inj hread ▸ h hvalue
  · cases hread

end Nomenclator.Text.Parser
