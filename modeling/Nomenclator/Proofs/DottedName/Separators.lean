import Nomenclator.Proofs.Identifier.Path

/-!
# What is left of a path that is run together

Running a path together doubles its underscores and turns its dots into underscores. All other
characters stay where they are, and each run of dots and underscores between them becomes a run of
underscores as long as the weight of the run: two for an underscore, one for a dot. So two paths
become the same exactly if they have the same other characters with runs of the same weights between
them (`underscored_eq_underscored_iff`).

Where every dot is followed by one of the other characters, a run is a few underscores and at most
one dot after them. Such a run is known by its weight (`separatorRuns_eq_map_ofWeight`), and so is
the path.
-/

namespace Nomenclator.DottedName

variable {first second name : String} {text run : List Char}

/-! ### Separators -/

/-- Dots and underscores are what running a path together changes. -/
def isSeparator (c : Char) : Bool :=
  c == '.' || c == '_'

/-- The characters of a name that are neither dots nor underscores, in order. -/
def wordChars (name : String) : List Char :=
  name.toList.filter (!isSeparator ·)

/-- The runs of dots and underscores in a name: the one before the first other character, those
between every two consecutive ones, and the one after the last. A run may be empty. -/
def separatorRuns (name : String) : List (List Char) :=
  name.toList.splitOnP (!isSeparator ·)

/-- The weight of a run: two for each underscore and one for each dot. -/
def weight (run : List Char) : ℕ :=
  2 * run.count '_' + run.count '.'

theorem weight_underscore_cons (run : List Char) : weight ('_' :: run) = weight run + 2 := by
  have hdot : ('.' : Char) ≠ '_' := by decide
  rw [weight, weight, List.count_cons_self, List.count_cons_of_ne hdot.symm]
  omega

theorem weight_dot_cons (run : List Char) : weight ('.' :: run) = weight run + 1 := by
  have hdot : ('.' : Char) ≠ '_' := by decide
  rw [weight, weight, List.count_cons_self, List.count_cons_of_ne hdot]
  omega

theorem eq_dot_or_eq_underscore {c : Char} (h : isSeparator c = true) : c = '.' ∨ c = '_' := by
  simpa [isSeparator] using h

/-- A run consists of separators. -/
theorem isSeparator_of_mem_run (h : run ∈ separatorRuns name) {c : Char} (hc : c ∈ run) :
    isSeparator c = true := by
  simpa using (Text.mem_and_eq_false_of_mem_splitOnP h hc).2

/-- A name is known by its runs and by the characters between them. -/
theorem eq_of_separatorRuns_eq (hruns : separatorRuns first = separatorRuns second)
    (hchars : wordChars first = wordChars second) : first = second :=
  String.toList_injective (Text.eq_of_splitOnP_eq hruns hchars)

/-! ### Running a path together -/

/-- The other characters stay as they are. -/
theorem wordChars_underscored (name : String) : wordChars (underscored name) = wordChars name := by
  rw [wordChars, wordChars, underscored, Text.filter_replaceChar (by decide) (by decide),
    Text.filter_replaceChar (by decide) (by decide)]

/-- A path that is run together has the same other characters as before. -/
theorem mem_underscored_iff {c : Char} (hc : isSeparator c = false) :
    c ∈ (underscored name).toList ↔ c ∈ name.toList := by
  have hword (text : String) : c ∈ text.toList ↔ c ∈ wordChars text := by
    simp [wordChars, hc]
  rw [hword, wordChars_underscored, ← hword]

/-- A run becomes as many underscores as its weight tells. -/
theorem flatMap_run (h : ∀ c ∈ run, isSeparator c = true) :
    (run.flatMap fun c => if c = '_' then "__".toList else [c]).flatMap
      (fun c => if c = '.' then "_".toList else [c]) = List.replicate (weight run) '_' := by
  induction run with
  | nil => rfl
  | cons c rest ih =>
    rw [List.forall_mem_cons] at h
    rw [List.flatMap_cons, List.flatMap_append, ih h.2]
    rcases eq_dot_or_eq_underscore h.1 with rfl | rfl
    · rw [weight_dot_cons]
      rfl
    · rw [weight_underscore_cons]
      rfl

/-- The runs of a path that is run together. -/
theorem separatorRuns_underscored (name : String) :
    separatorRuns (underscored name) =
      ((separatorRuns name).map weight).map fun length => List.replicate length '_' := by
  rw [separatorRuns, underscored, Text.splitOnP_replaceChar (by decide) (by decide),
    Text.splitOnP_replaceChar (by decide) (by decide), List.map_map, List.map_map]
  refine List.map_congr_left fun run hrun => flatMap_run fun c hc => ?_
  exact isSeparator_of_mem_run hrun hc

/-- **Two paths become the same when they are run together exactly if** they have the same
characters besides dots and underscores, and the runs between them have the same weights. -/
theorem underscored_eq_underscored_iff :
    underscored first = underscored second ↔
      wordChars first = wordChars second ∧
        (separatorRuns first).map weight = (separatorRuns second).map weight := by
  constructor
  · intro heq
    have hruns := congrArg separatorRuns heq
    rw [separatorRuns_underscored, separatorRuns_underscored] at hruns
    -- a run of underscores is known by its length
    have hlengths : Function.Injective fun length => List.replicate length '_' :=
      fun _ _ hreplicate => List.replicate_left_injective '_' hreplicate
    refine ⟨?_, List.map_injective_iff.mpr hlengths hruns⟩
    rw [← wordChars_underscored first, heq, wordChars_underscored]
  · rintro ⟨hchars, hweights⟩
    refine eq_of_separatorRuns_eq ?_ ?_
    · rw [separatorRuns_underscored, hweights, ← separatorRuns_underscored]
    · rw [wordChars_underscored, hchars, ← wordChars_underscored]

/-! ### Runs that are known by their weight -/

/-- Every dot of a text is followed by a character that is neither a dot nor an underscore. -/
def DotsLead (text : List Char) : Prop :=
  ∀ before after, text = before ++ '.' :: after → ∃ c, after.head? = some c ∧ isSeparator c = false

theorem DotsLead.tail {c : Char} (h : DotsLead (c :: text)) : DotsLead text :=
  fun before after hsplit => h (c :: before) after (by rw [hsplit, List.cons_append])

/-- A run of the given weight with at most one dot, which is at its end. -/
def ofWeight (n : ℕ) : List Char :=
  List.replicate (n / 2) '_' ++ List.replicate (n % 2) '.'

theorem ofWeight_add_two (n : ℕ) : ofWeight (n + 2) = '_' :: ofWeight n := by
  rw [ofWeight, ofWeight, Nat.add_div_right n (by decide), Nat.add_mod_right,
    List.replicate_succ, List.cons_append]

/-- Where dots lead to other characters, every run is a few underscores with at most one dot after
them. -/
theorem ofWeight_weight (h : DotsLead text) :
    ∀ run ∈ text.splitOnP (!isSeparator ·), ofWeight (weight run) = run := by
  induction text with
  | nil =>
    intro run hrun
    rw [List.splitOnP_nil, List.mem_singleton] at hrun
    rw [hrun]
    rfl
  | cons c rest ih =>
    have hrest := ih h.tail
    obtain ⟨head, tail, hsplit⟩ :=
      List.exists_cons_of_ne_nil (List.splitOnP_ne_nil (!isSeparator ·) rest)
    rw [List.splitOnP_cons_eq_if_modifyHead]
    cases hc : isSeparator c with
    | false =>
      exact List.forall_mem_cons.mpr ⟨rfl, hrest⟩
    | true =>
      rw [hsplit] at hrest ⊢
      obtain ⟨hhead, htail⟩ := List.forall_mem_cons.mp hrest
      refine List.forall_mem_cons.mpr ⟨?_, htail⟩
      rcases eq_dot_or_eq_underscore hc with rfl | rfl
      · -- what follows the dot ends its run
        obtain ⟨d, hd, hseparator⟩ := h [] rest rfl
        obtain ⟨later, rfl⟩ := List.head?_eq_some_iff.mp hd
        rw [List.splitOnP_cons_eq_if_modifyHead, hseparator] at hsplit
        obtain ⟨rfl, -⟩ := List.cons.inj hsplit
        rfl
      · rw [weight_underscore_cons, ofWeight_add_two, hhead]

/-- Where dots lead to other characters, the runs are known by their weights. -/
theorem separatorRuns_eq_map_ofWeight (h : DotsLead name.toList) :
    separatorRuns name = ((separatorRuns name).map weight).map ofWeight := by
  have hself : (separatorRuns name).map (ofWeight ∘ weight) = (separatorRuns name).map id :=
    List.map_congr_left (ofWeight_weight h)
  rw [List.map_map, hself, List.map_id]

/-- **Names in which dots lead to other characters stay different when they are run together.** -/
theorem eq_of_underscored_eq (hfirst : DotsLead first.toList) (hsecond : DotsLead second.toList)
    (heq : underscored first = underscored second) : first = second := by
  obtain ⟨hchars, hweights⟩ := underscored_eq_underscored_iff.mp heq
  refine eq_of_separatorRuns_eq ?_ hchars
  rw [separatorRuns_eq_map_ofWeight hfirst, hweights, ← separatorRuns_eq_map_ofWeight hsecond]

/-- In a name whose later segments begin with other characters, dots lead to these. -/
theorem dotsLead_of_segments (hne : ∀ segment ∈ segments name, segment ≠ "")
    (hbegin : ∀ segment ∈ (segments name).tail, segment.toList.head? ≠ some '_') :
    DotsLead name.toList := by
  intro before after hname
  obtain ⟨last, outer, hbefore⟩ := List.exists_cons_of_ne_nil (List.splitOn_ne_nil '.' before)
  obtain ⟨part, later, hafter⟩ := List.exists_cons_of_ne_nil (List.splitOn_ne_nil '.' after)
  have hsegment : String.ofList part ∈ (segments name).tail := by
    rw [segments, hname, List.splitOn_append_cons_self, hbefore, hafter]
    simp
  have hpart : part ≠ [] := by
    rintro rfl
    exact hne _ (List.mem_of_mem_tail hsegment) rfl
  have hhead : part.head? ≠ some '_' := by
    simpa using hbegin _ hsegment
  cases after with
  | nil => exact absurd (List.cons.inj hafter).1.symm hpart
  | cons c rest =>
    rw [List.splitOn_cons_eq_if_modifyHead] at hafter
    split at hafter
    · exact absurd (List.cons.inj hafter).1.symm hpart
    · rename_i hdot
      obtain ⟨word, words, hrest⟩ := List.exists_cons_of_ne_nil (List.splitOn_ne_nil '.' rest)
      rw [hrest, List.modifyHead_cons] at hafter
      obtain ⟨rfl, -⟩ := List.cons.inj hafter
      have hunderscore : c ≠ '_' := by
        rintro rfl
        exact hhead rfl
      refine ⟨c, rfl, ?_⟩
      simpa [isSeparator, hunderscore] using hdot

end Nomenclator.DottedName
