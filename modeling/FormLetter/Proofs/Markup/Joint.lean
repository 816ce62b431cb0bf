import FormLetter.Proofs.Markup.Span

/-!
# Blanks at joints

The stretches of a span are joined one after the other, each with the blanks around its joint. What
comes out can be said of the whole text at once: of the runs of blanks in it, those that touch a
joint become one space each, and the others stay.

* `runs_induction`: a text is made of single characters and of maximal runs of blanks.
* `collapse`: a text with each run of blanks that touches a joint made one space.
* `Span.text`, `Span.joints`: the text of a span and where it was interrupted.
* `Span.joined_eq`: the joined text of a span is its collapsed text, stripped.
* `SpacedAt`, `collapse_eq_self_iff`: when collapsing changes nothing.
-/

namespace FormLetter

open Text

/-! ## Runs of blanks -/

/-- No blank stands in front of a text. -/
def SolidHead (text : Text) : Prop := ∀ c ∈ text.head?, isBlank c = false

/-- No blank stands at the end of a text. -/
def SolidLast (text : Text) : Prop := ∀ c ∈ text.getLast?, isBlank c = false

instance (text : Text) : Decidable (SolidHead text) :=
  Option.decidableForallMem _

instance (text : Text) : Decidable (SolidLast text) :=
  Option.decidableForallMem _

theorem solidHead_nil : SolidHead [] := by
  intro c hc
  cases hc

theorem solidLast_nil : SolidLast [] := by
  intro c hc
  cases hc

theorem solidHead_cons {c : Char} (h : isBlank c = false) (rest : Text) : SolidHead (c :: rest) := by
  rintro _ ⟨⟩
  exact h

theorem solidLast_append_singleton {c : Char} (h : isBlank c = false) (front : Text) :
    SolidLast (front ++ [c]) := by
  intro d hd
  rw [List.getLast?_concat] at hd
  cases hd
  exact h

theorem not_solidHead_of_blank {run : Text} (hne : run ≠ []) (hb : isAllBlank run = true)
    (back : Text) : ¬ SolidHead (run ++ back) := by
  obtain ⟨c, more, rfl⟩ := List.exists_cons_of_ne_nil hne
  intro h
  have := h c rfl
  simp_all

theorem not_solidLast_of_blank {run : Text} (hne : run ≠ []) (hb : isAllBlank run = true)
    (front : Text) : ¬ SolidLast (front ++ run) := by
  obtain ⟨init, c, rfl⟩ := (List.eq_nil_or_concat run).resolve_left hne
  intro h
  have := h c (by simp)
  simp_all

theorem SolidLast.of_append (front : Text) {back : Text} (h : SolidLast (front ++ back)) :
    SolidLast back := by
  intro c hc
  refine h c ?_
  rw [List.getLast?_append, hc]
  rfl

/-- A text is nothing, a character that is no blank in front of a text, or a maximal run of blanks
in front of a text. -/
theorem runs_induction {motive : Text → Prop} (nil : motive [])
    (solid : ∀ c rest, isBlank c = false → motive rest → motive (c :: rest))
    (run : ∀ run rest, run ≠ [] → isAllBlank run = true → SolidHead rest → motive rest →
      motive (run ++ rest)) (text : Text) : motive text := by
  induction h : text.length using Nat.strongRecOn generalizing text with
  | _ n ih =>
    subst h
    cases text with
    | nil => exact nil
    | cons c rest =>
      cases hc : isBlank c with
      | false => exact solid c rest hc (ih _ (Nat.lt_succ_self _) rest rfl)
      | true =>
        have hle := length_stripLeft_le rest
        have hrest := ih _ (Nat.lt_succ_of_le hle) (stripLeft rest) rfl
        have hrun := run (c :: rest.takeWhile isBlank) (stripLeft rest) (List.cons_ne_nil _ _)
          (by simp [hc]) (head?_stripLeft rest) hrest
        rwa [List.cons_append, stripLeft, List.takeWhile_append_dropWhile] at hrun

/-! ## Collapsing -/

/-- Whether a joint lies in a stretch of text or at one of its ends. -/
def touches (joints : List Nat) (start stop : Nat) : Bool :=
  joints.any fun joint => start ≤ joint && joint ≤ stop

/-- The text that starts at an offset with each run of blanks that touches a joint made one space.
-/
def collapse (joints : List Nat) (offset : Nat) (text : Text) : Text :=
  match text with
  | [] => []
  | c :: rest =>
    if isBlank c then
      let run := c :: rest.takeWhile isBlank
      (if touches joints offset (offset + run.length) then [' '] else run) ++
        collapse joints (offset + run.length) (stripLeft rest)
    else c :: collapse joints (offset + 1) rest
  termination_by text.length
  decreasing_by
    · have := length_stripLeft_le rest
      simp only [List.length_cons]
      omega
    · simp

section

variable {joints : List Nat} {offset : Nat}

theorem touches_eq_false {start stop : Nat}
    (h : ∀ joint ∈ joints, joint < start ∨ stop < joint) : touches joints start stop = false := by
  refine List.any_eq_false.2 fun joint hj => ?_
  have := h joint hj
  simp only [Bool.and_eq_true, decide_eq_true_eq]
  omega

theorem collapse_nil (joints : List Nat) (offset : Nat) : collapse joints offset [] = [] := by
  rw [collapse]

theorem collapse_cons {c : Char} (hc : isBlank c = false) (rest : Text) :
    collapse joints offset (c :: rest) = c :: collapse joints (offset + 1) rest := by
  rw [collapse, if_neg (by rw [hc]; exact Bool.false_ne_true)]

theorem collapse_run {run rest : Text} (hne : run ≠ []) (hb : isAllBlank run = true)
    (hr : SolidHead rest) :
    collapse joints offset (run ++ rest) =
      (if touches joints offset (offset + run.length) then [' '] else run) ++
        collapse joints (offset + run.length) rest := by
  obtain ⟨c, more, rfl⟩ := List.exists_cons_of_ne_nil hne
  rw [isAllBlank, List.all_cons, Bool.and_eq_true] at hb
  have hmore : ∀ d ∈ more, isBlank d = true := List.all_eq_true.1 hb.2
  have htake : (more ++ rest).takeWhile isBlank = more := by
    rw [List.takeWhile_append_of_pos hmore]
    cases rest with
    | nil => simp
    | cons d rest => simp [hr d rfl]
  have hdrop : stripLeft (more ++ rest) = rest := by
    rw [stripLeft_append_of_blank hb.2, stripLeft_eq_self hr]
  rw [List.cons_append, collapse, if_pos hb.1, htake, hdrop]

theorem collapse_blank {run : Text} (hne : run ≠ []) (hb : isAllBlank run = true) :
    collapse joints offset run =
      if touches joints offset (offset + run.length) then [' '] else run := by
  rw [← List.append_nil run, collapse_run hne hb solidHead_nil, collapse_nil, List.append_nil,
    List.append_nil]

/-- Parts of a text collapse on their own if no run of blanks reaches over both. -/
theorem collapse_append {front back : Text} (h : SolidLast front ∨ SolidHead back) :
    collapse joints offset (front ++ back) =
      collapse joints offset front ++ collapse joints (offset + front.length) back := by
  induction front using runs_induction generalizing offset with
  | nil => simp [collapse_nil]
  | solid c rest hc ih =>
    have hrest : SolidLast rest ∨ SolidHead back :=
      h.imp (SolidLast.of_append [c]) id
    rw [List.cons_append, collapse_cons hc, collapse_cons hc, ih hrest, List.cons_append,
      List.length_cons, Nat.add_assoc, Nat.add_comm 1]
  | run run rest hne hb hr ih =>
    cases rest with
    | nil =>
      rw [List.append_nil] at h ⊢
      have hback : SolidHead back :=
        h.resolve_left fun hl => not_solidLast_of_blank hne hb [] (by simpa using hl)
      rw [collapse_run hne hb hback, collapse_blank hne hb]
    | cons c rest =>
      have hrest : SolidLast (c :: rest) ∨ SolidHead back := h.imp (SolidLast.of_append run) id
      have hc : SolidHead (c :: rest ++ back) := solidHead_cons (hr c rfl) _
      rw [List.append_assoc, collapse_run hne hb hc, ih hrest, collapse_run hne hb hr,
        List.append_assoc, List.length_append, Nat.add_assoc]

/-- Joints in front of a text do not matter. -/
theorem collapse_of_lt {text : Text} (h : ∀ joint ∈ joints, joint < offset) :
    collapse joints offset text = text := by
  induction text using runs_induction generalizing offset with
  | nil => exact collapse_nil _ _
  | solid c rest hc ih => rw [collapse_cons hc, ih fun joint hj => Nat.lt_succ_of_lt (h joint hj)]
  | run run rest hne hb hr ih =>
    rw [collapse_run hne hb hr, touches_eq_false fun joint hj => Or.inl (h joint hj),
      ih fun joint hj => Nat.lt_add_right _ (h joint hj)]
    rfl

/-- Nor does a joint where a text starts with another character than a blank. -/
theorem collapse_of_le {text : Text} (hs : SolidHead text) (h : ∀ joint ∈ joints, joint ≤ offset) :
    collapse joints offset text = text := by
  cases text with
  | nil => exact collapse_nil _ _
  | cons c rest =>
    rw [collapse_cons (hs c rfl), collapse_of_lt fun joint hj => Nat.lt_succ_of_le (h joint hj)]

/-- A joint behind a text does not matter. -/
theorem collapse_concat_of_lt {joint : Nat} {text : Text} (h : offset + text.length < joint) :
    collapse (joints ++ [joint]) offset text = collapse joints offset text := by
  induction text using runs_induction generalizing offset with
  | nil => rw [collapse_nil, collapse_nil]
  | solid c rest hc ih =>
    rw [List.length_cons] at h
    rw [collapse_cons hc, collapse_cons hc, ih (by omega)]
  | run run rest hne hb hr ih =>
    rw [List.length_append] at h
    have htouch : touches (joints ++ [joint]) offset (offset + run.length) =
        touches joints offset (offset + run.length) := by
      have hlast : touches [joint] offset (offset + run.length) = false :=
        touches_eq_false fun other ho => by rw [List.mem_singleton.1 ho]; omega
      rw [touches, List.any_append, ← touches, ← touches, hlast, Bool.or_false]
    rw [collapse_run hne hb hr, collapse_run hne hb hr, htouch, ih (by omega)]

theorem exists_concat_of_solidLast {text : Text} (h : SolidLast text) (hne : text ≠ []) :
    ∃ init c, text = init ++ [c] ∧ isBlank c = false := by
  obtain ⟨init, c, rfl⟩ := (List.eq_nil_or_concat text).resolve_left hne
  exact ⟨init, c, by simp, h c (by simp)⟩

/-- Nor does a joint at the end of a text that ends in another character than a blank. -/
theorem collapse_concat_of_le {joint : Nat} {text : Text} (hs : SolidLast text)
    (h : offset + text.length ≤ joint) :
    collapse (joints ++ [joint]) offset text = collapse joints offset text := by
  by_cases hne : text = []
  · rw [hne, collapse_nil, collapse_nil]
  · obtain ⟨init, c, rfl, hc⟩ := exists_concat_of_solidLast hs hne
    rw [List.length_append, List.length_singleton] at h
    have hhead : SolidHead [c] := solidHead_cons hc []
    rw [collapse_append (Or.inr hhead), collapse_append (Or.inr hhead),
      collapse_concat_of_lt (by omega), collapse_cons hc, collapse_cons hc, collapse_nil,
      collapse_nil]

theorem solidLast_collapse {text : Text} (hs : SolidLast text) :
    SolidLast (collapse joints offset text) := by
  by_cases hne : text = []
  · rw [hne, collapse_nil]
    exact solidLast_nil
  · obtain ⟨init, c, rfl, hc⟩ := exists_concat_of_solidLast hs hne
    rw [collapse_append (Or.inr (solidHead_cons hc [])), collapse_cons hc, collapse_nil]
    exact solidLast_append_singleton hc _

/-- Blanks stay blanks, and some are left of some. -/
theorem isAllBlank_collapse (joints : List Nat) (offset : Nat) {run : Text}
    (hb : isAllBlank run = true) :
    isAllBlank (collapse joints offset run) = true ∧
      (collapse joints offset run = [] ↔ run = []) := by
  by_cases hne : run = []
  · rw [hne, collapse_nil]
    exact ⟨rfl, Iff.rfl⟩
  · rw [collapse_blank hne hb]
    split
    · exact ⟨by decide, by simp [hne]⟩
    · exact ⟨hb, Iff.rfl⟩

/-- Around a joint that was added the blanks become one space, and all else is as before. -/
theorem collapse_concat {body gap rest : Text} {joint : Nat} (hbody : SolidLast body)
    (hgap : isAllBlank gap = true) (hrest : SolidHead rest) (hstart : body.length ≤ joint)
    (hstop : joint ≤ body.length + gap.length) (hj : ∀ other ∈ joints, other ≤ joint) :
    collapse (joints ++ [joint]) 0 (body ++ (gap ++ rest)) =
      collapse joints 0 body ++ ((if gap = [] then [] else [' ']) ++ rest) := by
  have hend : ∀ other ∈ joints ++ [joint], other ≤ body.length + gap.length := by
    intro other ho
    rcases List.mem_append.1 ho with ho | ho
    · exact Nat.le_trans (hj other ho) hstop
    · rwa [List.mem_singleton.1 ho]
  rw [collapse_append (Or.inl hbody), Nat.zero_add,
    collapse_concat_of_le hbody (by rwa [Nat.zero_add]), collapse_append (Or.inr hrest),
    collapse_of_le hrest hend]
  by_cases hne : gap = []
  · rw [hne, collapse_nil, if_pos rfl]
  · have htouch : touches (joints ++ [joint]) body.length (body.length + gap.length) = true :=
      List.any_eq_true.2 ⟨joint, by simp, by simp [hstart, hstop]⟩
    rw [collapse_blank hne hgap, if_pos htouch, if_neg hne]

/-! ### Texts that stay -/

/-- Each maximal run of blanks that touches a joint is a single space. -/
def SpacedAt (joints : List Nat) (text : Text) : Prop :=
  ∀ front run back, text = front ++ (run ++ back) → run ≠ [] → isAllBlank run = true →
    SolidLast front → SolidHead back →
    touches joints front.length (front.length + run.length) = true → run = [' ']

theorem collapse_eq_self_from {front text : Text} (hs : SpacedAt joints (front ++ text))
    (h : SolidLast front ∨ SolidHead text) : collapse joints front.length text = text := by
  induction text using runs_induction generalizing front with
  | nil => exact collapse_nil _ _
  | solid c rest hc ih =>
    have hnext : SpacedAt joints (front ++ [c] ++ rest) := by simpa using hs
    have hrest := ih hnext (Or.inl (solidLast_append_singleton hc front))
    rw [List.length_append, List.length_singleton] at hrest
    rw [collapse_cons hc, hrest]
  | run run rest hne hb hr ih =>
    have hfront : SolidLast front := h.resolve_right (not_solidHead_of_blank hne hb rest)
    have hnext : SpacedAt joints (front ++ run ++ rest) := by rwa [List.append_assoc]
    have hrest := ih hnext (Or.inr hr)
    rw [List.length_append] at hrest
    rw [collapse_run hne hb hr, hrest]
    split
    · rename_i htouch
      rw [hs front run rest rfl hne hb hfront hr htouch]
    · rfl

theorem length_collapse_le (text : Text) : (collapse joints offset text).length ≤ text.length := by
  induction text using runs_induction generalizing offset with
  | nil => exact Nat.le_of_eq (congrArg _ (collapse_nil _ _))
  | solid c rest hc ih =>
    rw [collapse_cons hc]
    exact Nat.succ_le_succ ih
  | run run rest hne hb hr ih =>
    have hpos := List.length_pos_iff.2 hne
    have hrest := @ih (offset + run.length)
    rw [collapse_run hne hb hr, List.length_append, List.length_append]
    split
    · rw [List.length_singleton]
      omega
    · omega

/-- Collapsing changes nothing exactly where all runs that touch a joint are single spaces. -/
theorem collapse_eq_self_iff {text : Text} : collapse joints 0 text = text ↔ SpacedAt joints text := by
  constructor
  · rintro h front run back rfl hne hb hfront hback htouch
    have h1 : (collapse joints 0 front).length ≤ front.length := length_collapse_le front
    have h2 : (collapse joints (front.length + run.length) back).length ≤ back.length :=
      length_collapse_le back
    have hpos := List.length_pos_iff.2 hne
    rw [collapse_append (Or.inl hfront), Nat.zero_add, collapse_run hne hb hback,
      if_pos htouch] at h
    -- No part can be longer, so the two sides agree part by part.
    have hlen := congrArg List.length h
    simp only [List.length_append, List.length_singleton] at hlen
    obtain ⟨-, hrun⟩ := List.append_inj h (by omega)
    exact (List.append_inj hrun (by rw [List.length_singleton]; omega)).1.symm
  · intro hs
    have hs : SpacedAt joints ([] ++ text) := hs
    exact collapse_eq_self_from hs (Or.inl solidLast_nil)

end

/-! ## Spans -/

namespace Span

/-- The text of a span: the characters outside its tags. -/
def text (span : Span) : Text := span.stretches.flatten

/-- The offsets at which tags stood in front of stretches of a text that starts at an offset. -/
def jointsFrom (offset : Nat) : List (Text × Text) → List Nat
  | [] => []
  | piece :: more => offset :: jointsFrom (offset + piece.2.length) more

/-- The offsets in the text of a span at which a tag stood. -/
def joints (span : Span) : List Nat := jointsFrom span.first.length span.more

/-- At a joint with blanks on either side one space is left. -/
theorem joint_append_append {body tail front rest : Text} (hbody : SolidLast body)
    (ht : isAllBlank tail = true) (hf : isAllBlank front = true) (hrest : SolidHead rest) :
    joint (body ++ tail) (front ++ rest) =
      body ++ ((if tail ++ front = [] then [] else [' ']) ++ rest) := by
  have hleft : stripRight (body ++ tail) = body := by
    rw [stripRight_append_of_blank ht, stripRight_eq_self hbody]
  have hright : stripLeft (front ++ rest) = rest := by
    rw [stripLeft_append_of_blank hf, stripLeft_eq_self hrest]
  have hlast : (body ++ tail).getLast?.any isBlank = !tail.isEmpty := by
    rcases List.eq_nil_or_concat tail with rfl | ⟨init, c, rfl⟩
    · simpa [Option.any_eq_false, SolidLast] using hbody
    · simp_all
  have hhead : (front ++ rest).head?.any isBlank = !front.isEmpty := by
    cases front with
    | nil => simpa [Option.any_eq_false, SolidHead] using hrest
    | cons c front => simp_all
  unfold joint
  rw [hleft, hright, hlast, hhead]
  cases tail <;> cases front <;> simp

/-- Joining a stretch to a collapsed text is collapsing at the joint between them. -/
theorem joint_collapse {joints : List Nat} {left : Text} (hj : ∀ joint ∈ joints, joint ≤ left.length)
    (right : Text) :
    joint (collapse joints 0 left) right =
      collapse (joints ++ [left.length]) 0 (left ++ right) := by
  obtain ⟨tail, ht, hleft⟩ := exists_stripRight left
  obtain ⟨front, hf, hright⟩ := exists_stripLeft right
  have hbody : SolidLast (stripRight left) := getLast?_stripRight left
  have hrest : SolidHead (stripLeft right) := head?_stripLeft right
  generalize stripRight left = body at hleft hbody
  generalize stripLeft right = rest at hright hrest
  subst hleft hright
  have hblank := isAllBlank_collapse joints body.length ht
  have hgap : isAllBlank (tail ++ front) = true := by
    rw [isAllBlank, List.all_append, Bool.and_eq_true]
    exact ⟨ht, hf⟩
  rw [List.length_append] at hj ⊢
  calc joint (collapse joints 0 (body ++ tail)) (front ++ rest)
      = joint (collapse joints 0 body ++ collapse joints body.length tail) (front ++ rest) := by
        rw [collapse_append (Or.inl hbody), Nat.zero_add]
    _ = collapse joints 0 body ++ ((if tail ++ front = [] then [] else [' ']) ++ rest) := by
        rw [joint_append_append (solidLast_collapse hbody) hblank.1 hf hrest]
        simp only [List.append_eq_nil_iff, hblank.2]
    _ = collapse (joints ++ [body.length + tail.length]) 0 (body ++ (tail ++ front ++ rest)) := by
        refine (collapse_concat hbody hgap hrest (Nat.le_add_right _ _) ?_ hj).symm
        rw [List.length_append]
        omega
    _ = collapse (joints ++ [body.length + tail.length]) 0 (body ++ tail ++ (front ++ rest)) := by
        simp only [List.append_assoc]

/-- Joining stretches one after the other is collapsing at all joints. -/
theorem foldl_joint {joints : List Nat} {left : Text} (hj : ∀ joint ∈ joints, joint ≤ left.length)
    (more : List (Text × Text)) :
    more.foldl (fun text piece => joint text piece.2) (collapse joints 0 left) =
      collapse (joints ++ jointsFrom left.length more) 0 (left ++ (more.map (·.2)).flatten) := by
  induction more generalizing joints left with
  | nil => simp [jointsFrom]
  | cons piece more ih =>
    have hnext : ∀ joint ∈ joints ++ [left.length], joint ≤ (left ++ piece.2).length := by
      intro joint hm
      rw [List.length_append]
      rcases List.mem_append.1 hm with hm | hm
      · exact Nat.le_add_right_of_le (hj joint hm)
      · exact List.mem_singleton.1 hm ▸ Nat.le_add_right _ _
    rw [List.foldl_cons, joint_collapse hj, ih hnext]
    simp [jointsFrom]

/-- The joined text of a span with tags is its text, collapsed at the joints and stripped. -/
theorem joined_eq {span : Span} (h : span.more ≠ []) :
    span.joined = strip (collapse span.joints 0 span.text) := by
  have hnone : ∀ joint ∈ ([] : List Nat), joint ≤ span.first.length :=
    fun _ hm => absurd hm List.not_mem_nil
  have hfold := foldl_joint hnone span.more
  rw [collapse_of_lt fun _ hm => absurd hm List.not_mem_nil, List.nil_append] at hfold
  rw [joined, if_neg h, hfold]
  rfl

end Span

end FormLetter
