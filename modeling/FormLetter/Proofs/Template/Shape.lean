import FormLetter.Proofs.Template.Assembly
import FormLetter.Proofs.Template.Brace
import FormLetter.Proofs.Template.Pairing

/-!
# The shape of templates

Whatever a text is like, the tokens of its template have a shape that later stages may rely on: no
literal is empty or next to another one, the markers of a block stand in the order that its kind
allows, and blocks are nested no deeper than the limit.

* `readsAs_lex`: the markers among the pieces of a text are read as what they are.
* `IsWellBuilt`: the shape of a block.
* `Template.depth_parse_le`: blocks are nested no deeper than the limit.
* `Template.isWellBuilt_parse`: every block of a template is well built.
-/

namespace FormLetter

open Text

/-! ## Markers of a text -/

/-- A piece that is no marker, or whose text is read as its marker. -/
def Piece.IsRead : Piece → Prop
  | .marker read source => ReadsAs source read
  | _ => True

theorem Lexed.isRead_behindBraces {lexed : Lexed} (h : ∀ piece ∈ lexed.pieces, piece.IsRead)
    {content : Text} (hbare : Bare content) :
    ∀ piece ∈ (lexed.behindBraces ('{' :: content ++ ['}']) content).pieces, piece.IsRead := by
  unfold behindBraces
  split
  · split
    · exact List.forall_mem_cons.2 ⟨trivial, h⟩
    · exact Piece.forall_mem_consText (fun _ => trivial) h
  · rename_i hsign
    split
    · rename_i marker hmarker
      exact List.forall_mem_cons.2 ⟨⟨content, rfl, hbare, hsign, hmarker⟩, h⟩
    · exact Piece.forall_mem_consText (fun _ => trivial) h

theorem isRead_lexFrom (offset : Nat) (text : Text) :
    ∀ piece ∈ (lexFrom offset text).pieces, piece.IsRead := by
  fun_induction lexFrom offset text with
  | case1 => exact fun _ h => absurd h List.not_mem_nil
  | case2 offset rest tag tail h ih => exact Piece.forall_mem_consText (fun _ => trivial) ih
  | case3 offset rest h ih => exact Piece.forall_mem_consText (fun _ => trivial) ih
  | case4 offset rest content tail h ih =>
    exact Lexed.isRead_behindBraces ih (bare_of_takeBraces? h)
  | case5 offset rest h ih => exact Piece.forall_mem_consText (fun _ => trivial) ih
  | case6 offset c rest _ _ ih => exact Piece.forall_mem_consText (fun _ => trivial) ih

/-- The markers among the pieces of a text are read as what they are. -/
theorem readsAs_lex {text source : Text} {marker : Marker}
    (h : .marker marker source ∈ (lex text).pieces) : ReadsAs source marker :=
  isRead_lexFrom 0 text _ h

/-! ## Blocks -/

/-- A block whose markers are written as what they are and stand in order, and in whose branches no
literal is empty or next to another one. -/
structure IsWellBuilt (kind : BlockKind) (branches : List Branch) (close : Text) : Prop where
  /-- The markers of the branches are in order. -/
  marked : IsMarked ReadsAs kind (branches.map Branch.head)
  /-- The last marker closes a block of the kind. -/
  close : ReadsAs close (.closer kind)
  /-- The contents of the branches are coalesced. -/
  content : ∀ branch ∈ branches, Token.IsCoalesced branch.content

theorem Token.mem_walk {token : Token} {tokens : List Token} :
    token ∈ Token.walk tokens ↔ ∃ first ∈ tokens, token ∈ first.walkOne := by
  induction tokens with
  | nil => simp [Token.walk]
  | cons first tokens ih => simp [Token.walk, ih]

theorem Branch.mem_walk {token : Token} {branches : List Branch} :
    token ∈ Branch.walk branches ↔ ∃ branch ∈ branches, token ∈ Token.walk branch.content := by
  induction branches with
  | nil => simp [Branch.walk]
  | cons branch branches ih =>
    obtain ⟨condition, marker, content⟩ := branch
    simp [Branch.walk, Branch.walkOne, Branch.content, ih]

/-- A token inside which all blocks are well built, itself included. -/
def Token.BuildsWell (token : Token) : Prop :=
  ∀ kind branches close, .block kind branches close ∈ token.walkOne →
    IsWellBuilt kind branches close

theorem buildsWell_block {kind : BlockKind} {branches : List Branch} {close : Text}
    (h : IsWellBuilt kind branches close)
    (hc : ∀ branch ∈ branches, ∀ token ∈ branch.content, token.BuildsWell) :
    (Token.block kind branches close).BuildsWell := by
  intro kind' branches' close' hm
  rw [Token.walkOne] at hm
  rcases List.mem_cons.1 hm with heq | hm
  · cases heq
    exact h
  · obtain ⟨branch, hb, hm⟩ := Branch.mem_walk.1 hm
    obtain ⟨token, ht, hm⟩ := Token.mem_walk.1 hm
    exact hc branch hb token ht _ _ _ hm

theorem grants_buildsWell (depth : Int) (text : Text) :
    Grants (fun _ => Token.BuildsWell) ReadsAs depth (lex text).pieces where
  literal _ source _ _ _ hm := by simp [Token.walkOne] at hm
  tag _ mergeTag _ _ _ _ hm := by simp [Token.walkOne] at hm
  marker _ _ hm := readsAs_lex hm
  outward _ _ h := h
  block _ _ _ _ _ hmarked hclose hcontent :=
    buildsWell_block ⟨hmarked, hclose, fun branch hb => (hcontent branch hb).1⟩
      fun branch hb => (hcontent branch hb).2

/-! ## Nesting -/

theorem Token.depth_le_iff {tokens : List Token} {bound : Nat} :
    Token.depth tokens ≤ bound ↔ ∀ token ∈ tokens, token.depthOne ≤ bound := by
  induction tokens with
  | nil => simp [Token.depth]
  | cons token tokens ih => rw [Token.depth, Nat.max_le, ih, List.forall_mem_cons]

theorem Branch.depth_le_iff {branches : List Branch} {bound : Nat} :
    Branch.depth branches ≤ bound ↔ ∀ branch ∈ branches, Token.depth branch.content ≤ bound := by
  induction branches with
  | nil => simp [Branch.depth]
  | cons branch branches ih =>
    obtain ⟨condition, marker, content⟩ := branch
    rw [Branch.depth, Nat.max_le, ih, List.forall_mem_cons, Branch.content]

/-- With blocks around it, a token has that much less room for blocks inside it. -/
theorem grants_depthOne_le {depth : Int} {bound : Nat} (hd : depth ≤ bound) (pieces : List Piece) :
    Grants (fun level token => token.depthOne ≤ bound - level) (fun _ _ => True) depth pieces where
  literal _ _ := by simp [Token.depthOne]
  tag _ _ _ := by simp [Token.depthOne]
  marker _ _ _ := trivial
  outward level _ h := by omega
  block level kind branches close hlevel _ _ hcontent := by
    have hbranches : Branch.depth branches ≤ bound - (level + 1) :=
      Branch.depth_le_iff.2 fun branch hb => Token.depth_le_iff.2 (hcontent branch hb).2
    rw [Token.depthOne]
    omega

namespace Template

theorem isCoalesced_parse (limits : Limits) (text : Text) :
    Token.IsCoalesced (parse limits text).tokens := by
  have hrun (depth limit : Int) (budget : Nat) (assembly : Assembly) (pieces : List Piece) :
      Token.IsCoalesced (Assembly.run depth limit budget assembly pieces).1 := by
    induction pieces generalizing budget assembly with
    | nil => exact Token.isCoalesced_coalesce _
    | cons piece pieces ih =>
      simp only [Assembly.run]
      split
      · exact Token.isCoalesced_coalesce _
      · exact ih _ _
  exact hrun _ _ _ _ _

/-- Blocks are nested no deeper than the limit. -/
theorem depth_parse_le (limits : Limits) (text : Text) :
    Token.depth (parse limits text).tokens ≤ limits.depth.toNat :=
  Token.depth_le_iff.2 (forall_mem_parse (grants_depthOne_le (Int.self_le_toNat _) _))

/-- **The shape of a template.** With a nesting limit of at least one every text is read, whatever
the budget of markers. At no level of the template a literal is empty or next to another one. Every
block in it, at any depth, has a first branch with a condition, whose marker opens a block of its
kind, and a last marker that closes one; only the last branch may be without a condition, and a
block that is kept or left out has one branch. -/
theorem isWellBuilt_parse {limits : Limits} (h : 1 ≤ limits.depth) (text : Text) :
    isRefused limits text = false ∧ Token.IsCoalesced (parse limits text).tokens ∧
      ∀ kind branches close,
        .block kind branches close ∈ Token.walk (parse limits text).tokens →
          IsWellBuilt kind branches close := by
  refine ⟨isRefused_of_one_le h text, isCoalesced_parse limits text, ?_⟩
  intro kind branches close hm
  obtain ⟨token, ht, hm⟩ := Token.mem_walk.1 hm
  exact forall_mem_parse (grants_buildsWell limits.depth text) token ht _ _ _ hm

/-- A block with two branches, between markers that no branch takes and around a block beyond the
limit that stays open. -/
theorem isWellBuilt_parse_stray :
    let limits : Limits := ⟨1, some 9⟩
    let text := "{else}{if $A}{else}{else}{listif $B}{/if}{/listif}".toList
    1 ≤ limits.depth ∧ isRefused limits text = false ∧
      Token.IsCoalesced (parse limits text).tokens ∧
      ∃ branches, .block .ifBlock branches "{/if}".toList ∈ Token.walk (parse limits text).tokens ∧
        branches.map Branch.marker = ["{if $A}".toList, "{else}".toList] ∧
        IsWellBuilt .ifBlock branches "{/if}".toList := by
  intro limits text
  have hany : (Token.walk (parse limits text).tokens).any (fun
      | .block kind branches close =>
        kind == .ifBlock && close == "{/if}".toList &&
          branches.map Branch.marker == ["{if $A}".toList, "{else}".toList]
      | .literal _ => false
      | .tag _ => false) = true := by decide +kernel
  have hdepth : 1 ≤ limits.depth := by decide
  obtain ⟨hread, hcoalesced, hbuilt⟩ := isWellBuilt_parse hdepth text
  obtain ⟨token, hm, htoken⟩ := List.any_eq_true.1 hany
  split at htoken
  · rename_i kind branches close
    obtain ⟨hboth, hmarkers⟩ := Bool.and_eq_true_iff.1 htoken
    obtain ⟨hkind, hclose⟩ := Bool.and_eq_true_iff.1 hboth
    rw [eq_of_beq hkind, eq_of_beq hclose] at hm
    exact ⟨hdepth, hread, hcoalesced, branches, hm, eq_of_beq hmarkers, hbuilt _ _ _ hm⟩
  · exact absurd htoken Bool.false_ne_true
  · exact absurd htoken Bool.false_ne_true

end Template

end FormLetter
