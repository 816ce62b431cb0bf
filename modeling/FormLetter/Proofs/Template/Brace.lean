import FormLetter.Proofs.Template.Piece

/-!
# Braces outside markup tags

Where the opening braces of a text stand that no markup tag holds, and what follows them. Both can
be said without reading the text from the left.

* `InsideTag`, `BraceAt`: an opening brace outside all complete markup tags.
* `Signed`, `Closed`: a sign behind the brace, and a closing brace as the next delimiter.
* `bracesFrom`, `mem_bracesFrom`: the braces of a text in their order.
* `closed_iff`, `isSome_openedTag?_iff`: what the cutting of templates looks for.
-/

namespace FormLetter

open Text

/-! ## Positions outside markup tags -/

/-- The end of a text lies inside a complete markup tag: a `<` stands before it with no `>` between,
and a `>` follows. -/
def InsideTag (front back : Text) : Prop :=
  '>' ∈ back ∧ ∃ before within, front = before ++ '<' :: within ∧ '>' ∉ within

/-- An opening brace stands at a position, outside all complete markup tags, with a text behind it.
-/
def BraceAt (text : Text) (position : Nat) (rest : Text) : Prop :=
  ∃ front, text = front ++ '{' :: rest ∧ position = front.length ∧
    ¬ InsideTag front ('{' :: rest)

section

variable {text front back rest tag : Text} {position : Nat}

/-- A markup tag that is cut in two has its `>` in the second part and its `<` in the first, unless
that part is empty. -/
theorem IsTag.cut (h : IsTag (front ++ back)) (hne : back ≠ []) :
    '>' ∈ back ∧ (front = [] ∨ ∃ within, front = '<' :: within ∧ '>' ∉ within) := by
  obtain ⟨body, he, hbody⟩ := h
  rw [← List.dropLast_concat_getLast hne] at he ⊢
  generalize back.dropLast = init at he ⊢
  generalize back.getLast hne = last at he ⊢
  rw [← List.append_assoc] at he
  obtain ⟨he, hlast⟩ := List.append_inj' he rfl
  refine ⟨List.mem_append_right _ (hlast ▸ List.mem_cons_self), ?_⟩
  cases front with
  | nil => exact Or.inl rfl
  | cons c within =>
    obtain ⟨rfl, rfl⟩ := List.cons.inj he
    exact Or.inr ⟨within, rfl, fun hw => hbody (List.mem_append_left _ hw)⟩

theorem not_insideTag_nil : ¬ InsideTag [] back := by
  rintro ⟨-, before, within, he, -⟩
  cases before <;> cases he

theorem insideTag_cons {c : Char} (hc : c ≠ '<') :
    InsideTag (c :: front) back ↔ InsideTag front back := by
  refine and_congr_right fun _ => ⟨?_, ?_⟩
  · rintro ⟨before, within, he, hw⟩
    cases before with
    | nil => exact absurd (List.cons.inj he).1 hc
    | cons d before => exact ⟨before, within, (List.cons.inj he).2, hw⟩
  · rintro ⟨before, within, rfl, hw⟩
    exact ⟨c :: before, within, rfl, hw⟩

/-- Behind a markup tag nothing is inside it. -/
theorem insideTag_append (h : IsTag tag) :
    InsideTag (tag ++ front) back ↔ InsideTag front back := by
  refine and_congr_right fun _ => ⟨?_, ?_⟩
  · rintro ⟨before, within, he, hw⟩
    rcases List.append_eq_append_iff.1 he with ⟨middle, rfl, hm⟩ | ⟨middle, rfl, hback⟩
    · exact ⟨middle, within, hm, hw⟩
    · cases middle with
      | nil => exact ⟨[], within, hback.symm, hw⟩
      | cons c middle =>
        -- The `<` stands in the tag, so the end of the tag is behind it.
        obtain ⟨rfl, rfl⟩ := List.cons.inj hback
        have hlast := (List.mem_cons.1 (h.cut (List.cons_ne_nil _ _)).1).resolve_left (by decide)
        exact absurd (List.mem_append_left _ hlast) hw
  · rintro ⟨before, within, rfl, hw⟩
    exact ⟨tag ++ before, within, (List.append_assoc _ _ _).symm, hw⟩

theorem not_braceAt_nil : ¬ BraceAt [] position rest := by
  rintro ⟨front, he, -⟩
  cases front <;> cases he

theorem braceAt_cons {c : Char} (hl : c ≠ '<') (hb : c ≠ '{') :
    BraceAt (c :: text) position rest ↔
      ∃ offset, position = 1 + offset ∧ BraceAt text offset rest := by
  constructor
  · rintro ⟨front, he, rfl, hi⟩
    cases front with
    | nil => exact absurd (List.cons.inj he).1 hb
    | cons d front =>
      obtain ⟨rfl, rfl⟩ := List.cons.inj he
      exact ⟨front.length, Nat.add_comm _ _, front, rfl, rfl, mt (insideTag_cons hl).2 hi⟩
  · rintro ⟨_, rfl, front, rfl, rfl, hi⟩
    exact ⟨c :: front, rfl, Nat.add_comm _ _, mt (insideTag_cons hl).1 hi⟩

theorem braceAt_brace :
    BraceAt ('{' :: text) position rest ↔
      position = 0 ∧ rest = text ∨ ∃ offset, position = 1 + offset ∧ BraceAt text offset rest := by
  constructor
  · rintro ⟨front, he, rfl, hi⟩
    cases front with
    | nil => exact Or.inl ⟨rfl, (List.cons.inj he).2.symm⟩
    | cons d front =>
      obtain ⟨rfl, rfl⟩ := List.cons.inj he
      exact Or.inr ⟨front.length, Nat.add_comm _ _, front, rfl, rfl,
        mt (insideTag_cons (by decide)).2 hi⟩
  · rintro (⟨rfl, rfl⟩ | ⟨_, rfl, front, rfl, rfl, hi⟩)
    · exact ⟨[], rfl, rfl, not_insideTag_nil⟩
    · exact ⟨'{' :: front, rfl, Nat.add_comm _ _, mt (insideTag_cons (by decide)).1 hi⟩

/-- A `<` that opens no markup tag is like any other character. -/
theorem braceAt_lt (h : '>' ∉ text) :
    BraceAt ('<' :: text) position rest ↔
      ∃ offset, position = 1 + offset ∧ BraceAt text offset rest := by
  have hnot {front : Text} (he : text = front ++ '{' :: rest) (before : Text) :
      ¬ InsideTag before ('{' :: rest) := fun hi =>
    h (he ▸ List.mem_append_right _ hi.1)
  constructor
  · rintro ⟨front, he, rfl, -⟩
    cases front with
    | nil => cases he
    | cons d front =>
      obtain ⟨-, he⟩ := List.cons.inj he
      exact ⟨front.length, Nat.add_comm _ _, front, he, rfl, hnot he front⟩
  · rintro ⟨_, rfl, front, he, rfl, -⟩
    exact ⟨'<' :: front, by rw [he]; rfl, Nat.add_comm _ _, hnot he _⟩

/-- No brace inside a markup tag counts. -/
theorem braceAt_tag (h : IsTag tag) :
    BraceAt (tag ++ text) position rest ↔
      ∃ offset, position = tag.length + offset ∧ BraceAt text offset rest := by
  constructor
  · rintro ⟨front, he, rfl, hi⟩
    rcases List.append_eq_append_iff.1 he with ⟨middle, rfl, hm⟩ | ⟨middle, rfl, hrest⟩
    · exact ⟨middle.length, List.length_append, middle, hm, rfl, mt (insideTag_append h).2 hi⟩
    · cases middle with
      | nil => exact ⟨0, by simp, [], hrest.symm, rfl, not_insideTag_nil⟩
      | cons d middle =>
        -- The brace would stand in the tag.
        obtain ⟨rfl, rfl⟩ := List.cons.inj hrest
        obtain ⟨hlast, hfirst⟩ := h.cut (List.cons_ne_nil _ _)
        rcases hfirst with rfl | ⟨within, rfl, hw⟩
        · obtain ⟨body, hbody, -⟩ := h
          exact absurd (List.cons.inj hbody).1 (by decide)
        · exact absurd ⟨List.mem_append_left _ hlast, [], within, rfl, hw⟩ hi
  · rintro ⟨_, rfl, front, rfl, rfl, hi⟩
    exact ⟨tag ++ front, (List.append_assoc _ _ _).symm, List.length_append.symm,
      mt (insideTag_append h).1 hi⟩

end

/-! ## Reading from the left -/

/-- The opening braces outside markup tags, each with its position and what follows it, for a text
that starts at an offset. -/
def bracesFrom (offset : Nat) (text : Text) : List (Nat × Text) :=
  match text with
  | [] => []
  | '<' :: rest =>
    match _h : takeTag? rest with
    | some (tag, tail) => bracesFrom (offset + tag.length) tail
    | none => bracesFrom (offset + 1) rest
  | '{' :: rest => (offset, rest) :: bracesFrom (offset + 1) rest
  | _ :: rest => bracesFrom (offset + 1) rest
  termination_by text.length
  decreasing_by
    · have := length_takeTag?_lt _h
      simp only [List.length_cons]
      omega
    · simp
    · simp
    · simp

section

variable {rest tag tail : Text} {offset position : Nat}

theorem bracesFrom_nil (offset : Nat) : bracesFrom offset [] = [] := by
  rw [bracesFrom]

theorem bracesFrom_tag (h : takeTag? rest = some (tag, tail)) (offset : Nat) :
    bracesFrom offset ('<' :: rest) = bracesFrom (offset + tag.length) tail := by
  rw [bracesFrom]
  split <;> simp_all

theorem bracesFrom_lt (h : takeTag? rest = none) (offset : Nat) :
    bracesFrom offset ('<' :: rest) = bracesFrom (offset + 1) rest := by
  rw [bracesFrom]
  split <;> simp_all

theorem bracesFrom_brace (offset : Nat) (rest : Text) :
    bracesFrom offset ('{' :: rest) = (offset, rest) :: bracesFrom (offset + 1) rest := by
  rw [bracesFrom]

theorem bracesFrom_cons {c : Char} (hl : c ≠ '<') (hb : c ≠ '{') (offset : Nat) (rest : Text) :
    bracesFrom offset (c :: rest) = bracesFrom (offset + 1) rest := by
  rw [bracesFrom]
  · exact hl
  · exact hb

/-- There are no braces in a bare text. -/
theorem bracesFrom_append {content : Text} (h : Bare content) (offset : Nat) (tail : Text) :
    bracesFrom offset (content ++ tail) = bracesFrom (offset + content.length) tail := by
  induction content generalizing offset with
  | nil => rfl
  | cons c content ih =>
    obtain ⟨hc, hcontent⟩ := bare_cons.1 h
    have hl : c ≠ '<' := by rintro rfl; exact absurd hc (by decide)
    have hb : c ≠ '{' := by rintro rfl; exact absurd hc (by decide)
    rw [List.cons_append, bracesFrom_cons hl hb, ih hcontent, List.length_cons, Nat.add_assoc,
      Nat.add_comm 1]

/-- Characters in front that hold no brace are passed over. -/
theorem mem_braces_skip {braces : List (Nat × Text)} {text : Text} (count : Nat)
    (hskip : ∀ index, BraceAt text index rest ↔
      ∃ more, index = count + more ∧ BraceAt tail more rest)
    (htail : (position, rest) ∈ braces ↔
      ∃ index, position = offset + count + index ∧ BraceAt tail index rest) :
    (position, rest) ∈ braces ↔ ∃ index, position = offset + index ∧ BraceAt text index rest := by
  rw [htail]
  constructor
  · rintro ⟨more, rfl, hb⟩
    exact ⟨count + more, Nat.add_assoc _ _ _, (hskip _).2 ⟨more, rfl, hb⟩⟩
  · rintro ⟨index, rfl, hb⟩
    obtain ⟨more, rfl, hmore⟩ := (hskip index).1 hb
    exact ⟨more, (Nat.add_assoc _ _ _).symm, hmore⟩

/-- Reading from the left finds exactly the braces outside markup tags. -/
theorem mem_bracesFrom (offset : Nat) (text : Text) (position : Nat) (rest : Text) :
    (position, rest) ∈ bracesFrom offset text ↔
      ∃ index, position = offset + index ∧ BraceAt text index rest := by
  fun_induction bracesFrom offset text with
  | case1 => exact iff_of_false List.not_mem_nil fun ⟨_, _, hb⟩ => not_braceAt_nil hb
  | case2 offset text tag tail h ih =>
    refine mem_braces_skip tag.length (fun index => ?_) ih
    rw [takeTag?_eq_some h]
    exact braceAt_tag (isTag_of_takeTag? h)
  | case3 offset text h ih =>
    exact mem_braces_skip 1 (fun index => braceAt_lt (notMem_of_takeTag? h)) ih
  | case4 offset text ih =>
    rw [List.mem_cons, ih, Prod.mk.injEq]
    simp only [braceAt_brace]
    constructor
    · rintro (⟨rfl, rfl⟩ | ⟨more, rfl, hb⟩)
      · exact ⟨0, rfl, Or.inl ⟨rfl, rfl⟩⟩
      · exact ⟨1 + more, Nat.add_assoc _ _ _, Or.inr ⟨more, rfl, hb⟩⟩
    · rintro ⟨index, rfl, ⟨rfl, rfl⟩ | ⟨more, rfl, hb⟩⟩
      · exact Or.inl ⟨rfl, rfl⟩
      · exact Or.inr ⟨more, (Nat.add_assoc _ _ _).symm, hb⟩
  | case5 offset c text hl hb ih =>
    exact mem_braces_skip 1 (fun index => braceAt_cons hl hb) ih

/-- The braces are found in the order of the text. -/
theorem bracesFrom_sorted (offset : Nat) (text : Text) :
    (bracesFrom offset text).Pairwise fun a b => a.1 < b.1 := by
  fun_induction bracesFrom offset text with
  | case1 => exact .nil
  | case4 offset text ih =>
    refine List.pairwise_cons.2 ⟨fun brace hb => ?_, ih⟩
    obtain ⟨index, hindex, -⟩ := (mem_bracesFrom _ _ brace.1 brace.2).1 hb
    show offset < brace.1
    omega
  | case2 offset text tag tail h ih => exact ih
  | case3 offset text h ih => exact ih
  | case5 offset c text hl hb ih => exact ih

end

/-! ## What follows a brace -/

/-- A text starts with a sign, blanks aside. -/
def Signed (sign rest : Text) : Prop :=
  ∃ blanks tail, rest = blanks ++ (sign ++ tail) ∧ isAllBlank blanks = true

/-- The next delimiter of a text is a closing brace. -/
def Closed (rest : Text) : Prop := ∃ content tail, rest = content ++ '}' :: tail ∧ Bare content

theorem bare_of_takeBraces? {rest content tail : Text}
    (h : takeBraces? rest = some (content, tail)) : Bare content := by
  induction rest generalizing content with
  | nil => cases h
  | cons c rest ih =>
    simp only [takeBraces?] at h
    split at h
    · cases h
      exact bare_nil
    · split at h
      · cases h
      · rename_i hclose hother
        obtain ⟨⟨inner, after⟩, hi, he⟩ := Option.map_eq_some_iff.1 h
        cases he
        refine bare_cons.2 ⟨?_, ih hi⟩
        simp only [Bool.or_eq_true, decide_eq_true_eq, not_or] at hother
        simp [isDelimiter, hclose, hother]

/-- A pair of braces is what is looked for. -/
theorem closed_iff {rest : Text} : Closed rest ↔ (takeBraces? rest).isSome := by
  constructor
  · rintro ⟨content, tail, rfl, hc⟩
    rw [takeBraces?_append hc]
    rfl
  · intro h
    obtain ⟨⟨content, tail⟩, hb⟩ := Option.isSome_iff_exists.1 h
    exact ⟨content, tail, takeBraces?_eq_some hb, bare_of_takeBraces? hb⟩

/-- A text that starts with another character than a blank. -/
def StartsSolid (text : Text) : Prop := ∃ c ∈ text.head?, isBlank c = false

instance (text : Text) : Decidable (StartsSolid text) :=
  decidable_of_iff (text.head?.any fun c => !isBlank c)
    (by simp [StartsSolid, Option.any_eq_true])

theorem signed_iff {sign rest : Text} (hs : StartsSolid sign) :
    Signed sign rest ↔ ∃ tail, stripLeft rest = sign ++ tail := by
  constructor
  · rintro ⟨blanks, tail, rfl, hb⟩
    refine ⟨tail, ?_⟩
    obtain ⟨c, hc, hsolid⟩ := hs
    rw [stripLeft_append_of_blank hb]
    refine stripLeft_eq_self fun d hd => ?_
    rw [List.head?_append, hc] at hd
    exact Option.some.inj hd ▸ hsolid
  · rintro ⟨tail, he⟩
    obtain ⟨blanks, hb, hrest⟩ := exists_stripLeft rest
    exact ⟨blanks, tail, by rw [← he]; exact hrest, hb⟩

theorem head?_stripRight {c : Char} (hc : isBlank c = false) (tail : Text) :
    (stripRight (c :: tail)).head? = some c := by
  obtain ⟨back, hb, he⟩ := exists_stripRight (c :: tail)
  cases hs : stripRight (c :: tail) with
  | nil =>
    rw [hs, List.nil_append] at he
    subst he
    simp [hc] at hb
  | cons d more =>
    rw [hs] at he
    exact congrArg some (List.cons.inj he).1.symm

/-- The content of a pair of braces is read as a merge tag if a dollar sign comes first. -/
theorem signed_iff_head? {content : Text} :
    Signed ['$'] content ↔ (strip content).head? = some '$' := by
  constructor
  · intro h
    obtain ⟨tail, he⟩ := (signed_iff (by decide)).1 h
    rw [strip, he]
    exact head?_stripRight (by decide) _
  · intro h
    obtain ⟨front, back, hf, -, he⟩ := exists_strip content
    obtain ⟨tail, ht⟩ := List.head?_eq_some_iff.1 h
    rw [ht] at he
    exact ⟨front, tail ++ back, by rw [he]; simp, hf⟩

/-- A sign in front of a closing brace stands between the braces. -/
theorem signed_append_iff {content tail : Text} :
    Signed ['$'] (content ++ '}' :: tail) ↔ Signed ['$'] content := by
  rw [signed_iff (by decide), signed_iff (by decide)]
  cases hb : isAllBlank content with
  | true =>
    have hclose : stripLeft ('}' :: tail) = '}' :: tail := stripLeft_eq_self (by simp; decide)
    rw [stripLeft_append_of_blank hb, stripLeft_eq_nil_iff.2 hb, hclose]
    simp
  | false =>
    rw [stripLeft_append_of_not_blank hb]
    cases hc : stripLeft content with
    | nil => simp [stripLeft_eq_nil_iff.1 hc] at hb
    | cons c more => simp

/-- What is found behind a brace that is never closed: blanks, a sign, and word characters. -/
theorem openedTag?_eq_some {rest source : Text} (h : openedTag? rest = some source) :
    ∃ sign ∈ tagSigns, Signed sign rest ∧ source <+: '{' :: rest := by
  obtain ⟨sign, hs, hsource⟩ := List.exists_of_findSome?_eq_some h
  obtain ⟨tail, htail, rfl⟩ := Option.map_eq_some_iff.1 hsource
  rw [after?_eq_some_iff] at htail
  obtain ⟨word, hw⟩ := List.takeWhile_prefix isWordChar (l := tail)
  have hrest : rest = rest.takeWhile isBlank ++ (sign ++ tail) := by
    rw [← htail]
    exact List.takeWhile_append_dropWhile.symm
  refine ⟨sign, hs, ⟨_, tail, hrest, List.all_takeWhile⟩, word, ?_⟩
  rw [List.append_assoc, hw, List.append_assoc]
  exact congrArg ('{' :: ·) hrest.symm

/-- A sign of a merge tag is what is looked for. -/
theorem isSome_openedTag?_iff {rest : Text} :
    (openedTag? rest).isSome ↔ ∃ sign ∈ tagSigns, Signed sign rest := by
  constructor
  · intro h
    obtain ⟨source, hs⟩ := Option.isSome_iff_exists.1 h
    obtain ⟨sign, hsign, hsigned, -⟩ := openedTag?_eq_some hs
    exact ⟨sign, hsign, hsigned⟩
  · rintro ⟨sign, hsign, hsigned⟩
    have hsolid : ∀ sign ∈ tagSigns, StartsSolid sign := by decide
    obtain ⟨tail, htail⟩ := (signed_iff (hsolid sign hsign)).1 hsigned
    refine List.findSome?_isSome_iff.2 ⟨sign, hsign, ?_⟩
    rw [htail, after?_eq_some_iff.2 rfl]
    rfl

end FormLetter
