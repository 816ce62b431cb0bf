import FormLetter.Proofs.Template.Assembly

/-!
# What becomes of a text

The tokens of a template make up its text, so every position of the text plays a role: its
character is copied, a merge tag starts there, or the marker that closes a block. Roles do not
depend on how literals are cut, and a block that is never closed keeps the roles of its content.

* `Role`, `Token.roles`: the roles of the positions of a text.
* `Token.tags`: the merge tags with their positions.
* `Token.pairs`: the blocks, each by the positions of its first and its last marker.
* `Assembly.roles`: the roles that are settled while blocks are open.
* `Assembly.grows_step`: a piece settles more of them and changes none.
-/

namespace FormLetter

/-! ## Roles -/

/-- What a template makes of a position of its text. -/
inductive Role where
  /-- The character is copied. -/
  | copied
  /-- A merge tag starts. -/
  | tag (tag : MergeTag)
  /-- A block closes, which opens at an earlier position. -/
  | close (kind : BlockKind) (opener : Nat)

mutual

/-- The roles of the positions of a token that starts at an offset. The markers of a block have
none, except that it closes with the last of them. -/
def Token.rolesOne (offset : Nat) : Token → List (Nat × Role)
  | .literal source => (List.range' offset source.length).map fun position => (position, .copied)
  | .tag tag => [(offset, .tag tag)]
  | .block kind branches _ =>
    Branch.roles offset branches ++
      [(offset + (Branch.sources branches).length, .close kind offset)]

/-- The roles of the positions of tokens that start at an offset. -/
def Token.roles (offset : Nat) : List Token → List (Nat × Role)
  | [] => []
  | token :: tokens => token.rolesOne offset ++ Token.roles (offset + token.source.length) tokens

/-- The roles of the positions of branches that start at an offset. -/
def Branch.roles (offset : Nat) : List Branch → List (Nat × Role)
  | [] => []
  | .mk _ marker content :: branches =>
    Token.roles (offset + marker.length) content ++
      Branch.roles (offset + (marker ++ Token.sources content).length) branches

end

/-- A block by its kind and the positions of its first and its last marker. -/
structure BlockPair where
  /-- The kind of the block. -/
  kind : BlockKind
  /-- The position of the marker that opens it. -/
  opener : Nat
  /-- The position of the marker that closes it. -/
  closer : Nat
  deriving Repr, DecidableEq

namespace Role

/-- The merge tag that starts at a position. -/
def tag? : Nat × Role → Option (Nat × MergeTag)
  | (position, .tag mergeTag) => some (position, mergeTag)
  | _ => none

/-- The block that closes at a position. -/
def pair? : Nat × Role → Option BlockPair
  | (position, .close kind opener) => some ⟨kind, opener, position⟩
  | _ => none

/-- Whether a role is more than being copied. -/
def isMark : Nat × Role → Bool
  | (_, .copied) => false
  | _ => true

end Role

/-- The merge tags of a template with their positions, in the order of the text. -/
def Token.tags (tokens : List Token) : List (Nat × MergeTag) :=
  (Token.roles 0 tokens).filterMap Role.tag?

/-- The blocks of a template at any depth, in the order of their last markers. -/
def Token.pairs (tokens : List Token) : List BlockPair :=
  (Token.roles 0 tokens).filterMap Role.pair?

/-! ## Laws -/

namespace Token

@[simp] theorem roles_nil (offset : Nat) : Token.roles offset [] = [] := by
  rw [Token.roles]

theorem roles_cons (offset : Nat) (token : Token) (tokens : List Token) :
    Token.roles offset (token :: tokens) =
      token.rolesOne offset ++ Token.roles (offset + token.source.length) tokens := by
  rw [Token.roles]

theorem roles_singleton (offset : Nat) (token : Token) :
    Token.roles offset [token] = token.rolesOne offset := by
  rw [roles_cons, roles_nil, List.append_nil]

theorem roles_append (offset : Nat) (front back : List Token) :
    Token.roles offset (front ++ back) =
      Token.roles offset front ++ Token.roles (offset + (Token.sources front).length) back := by
  induction front generalizing offset with
  | nil => simp
  | cons token tokens ih =>
    rw [List.cons_append, roles_cons, ih, roles_cons, Token.sources_cons, List.length_append,
      List.append_assoc, Nat.add_assoc]

/-- Two literals next to each other have the roles of one. -/
theorem rolesOne_literal_append (offset : Nat) (front back : Text) :
    (Token.literal (front ++ back)).rolesOne offset =
      (Token.literal front).rolesOne offset ++
        (Token.literal back).rolesOne (offset + front.length) := by
  rw [rolesOne, rolesOne, rolesOne, ← List.map_append, List.length_append,
    ← List.range'_append_1]

theorem roles_consLiteral (offset : Nat) (source : Text) (tokens : List Token) :
    Token.roles offset (Token.consLiteral source tokens) =
      Token.roles offset (.literal source :: tokens) := by
  unfold Token.consLiteral
  split
  · rw [roles_cons, rolesOne]
    simp
  · rw [roles_cons, roles_cons, roles_cons, rolesOne_literal_append]
    simp [Nat.add_assoc]
  · rfl

/-- Roles do not depend on how literals are cut. -/
theorem roles_coalesce (offset : Nat) (tokens : List Token) :
    Token.roles offset (Token.coalesce tokens) = Token.roles offset tokens := by
  fun_induction Token.coalesce tokens generalizing offset with
  | case1 => rfl
  | case2 source tokens ih => rw [roles_consLiteral, roles_cons, ih, roles_cons]
  | case3 token tokens _ ih => rw [roles_cons, ih, roles_cons]

end Token

@[simp] theorem Branch.roles_nil (offset : Nat) : Branch.roles offset [] = [] := by
  rw [Branch.roles]

theorem Branch.roles_append (offset : Nat) (front back : List Branch) :
    Branch.roles offset (front ++ back) =
      Branch.roles offset front ++ Branch.roles (offset + (Branch.sources front).length) back := by
  induction front generalizing offset with
  | nil => simp [Branch.sources]
  | cons branch branches ih =>
    obtain ⟨condition, marker, content⟩ := branch
    rw [List.cons_append, Branch.roles, ih, Branch.roles, Branch.sources, Branch.source]
    simp [Nat.add_assoc]

/-! ## Growth -/

/-- Later roles keep all earlier ones, and what is added is copied. -/
structure Grows (before after : List (Nat × Role)) : Prop where
  /-- The earlier roles are kept in their order. -/
  sublist : before.Sublist after
  /-- The tags and the closing markers are the same. -/
  marks : after.filter Role.isMark = before.filter Role.isMark

namespace Grows

variable {before after : List (Nat × Role)}

theorem refl (roles : List (Nat × Role)) : Grows roles roles := ⟨.refl _, rfl⟩

theorem trans {middle : List (Nat × Role)} (h : Grows before middle) (h' : Grows middle after) :
    Grows before after :=
  ⟨h.sublist.trans h'.sublist, h'.marks.trans h.marks⟩

theorem append {more most : List (Nat × Role)} (h : Grows before after) (h' : Grows more most) :
    Grows (before ++ more) (after ++ most) :=
  ⟨h.sublist.append h'.sublist, by simp only [List.filter_append, h.marks, h'.marks]⟩

/-- A copied literal adds no tag and no closing marker. -/
theorem literal (offset : Nat) (source : Text) :
    Grows [] (Token.roles offset [.literal source]) := by
  refine ⟨List.nil_sublist _, ?_⟩
  rw [Token.roles_singleton, Token.rolesOne, List.filter_eq_nil_iff.2]
  · rfl
  · intro role hr
    obtain ⟨position, -, rfl⟩ := List.mem_map.1 hr
    exact Bool.false_ne_true

theorem filterMap_eq {β : Type} {f : Nat × Role → Option β}
    (hf : ∀ position, f (position, .copied) = none) (h : Grows before after) :
    after.filterMap f = before.filterMap f := by
  have hmarks (roles : List (Nat × Role)) :
      roles.filterMap f = (roles.filter Role.isMark).filterMap f := by
    have hrole : f = fun role => if Role.isMark role then f role else none := by
      funext ⟨position, role⟩
      cases role with
      | copied => exact hf position
      | _ => rfl
    rw [List.filterMap_filter, ← hrole]
  rw [hmarks after, h.marks, ← hmarks]

theorem tags (h : Grows before after) :
    after.filterMap Role.tag? = before.filterMap Role.tag? :=
  h.filterMap_eq fun _ => rfl

theorem pairs (h : Grows before after) :
    after.filterMap Role.pair? = before.filterMap Role.pair? :=
  h.filterMap_eq fun _ => rfl

end Grows

/-! ## Open blocks -/

namespace OpenBlock

variable (offset : Nat) (block : OpenBlock)

theorem roles_append (tokens : List Token) :
    Branch.roles offset (block.append tokens).branches =
      Branch.roles offset block.branches ++
        Token.roles (offset + (Branch.sources block.branches).length) tokens := by
  simp only [branches, append, Branch.roles_append, Branch.sources_append, Branch.roles,
    Branch.sources, Branch.source, Token.roles_coalesce, Token.sources_coalesce,
    List.reverse_append, List.reverse_reverse, Token.roles_append, List.append_nil,
    List.append_assoc, List.length_append, Nat.add_assoc]

theorem roles_nextBranch (condition : Option Condition) (marker : Text) :
    Branch.roles offset (block.nextBranch condition marker).branches =
      Branch.roles offset block.branches := by
  simp [branches, nextBranch, Branch.roles_append, Branch.roles, Token.coalesce]

/-- A block that is never closed keeps the roles of its content, and its markers are copied. -/
theorem grows_flattenBranches (branches : List Branch) :
    Grows (Branch.roles offset branches)
      (Token.roles offset (branches.flatMap flattenBranch)) := by
  induction branches generalizing offset with
  | nil => exact .refl _
  | cons branch branches ih =>
    obtain ⟨condition, marker, content⟩ := branch
    have hrest := ih (offset + (marker ++ Token.sources content).length)
    have hfirst := (Grows.literal offset marker).append
      (.refl (Token.roles (offset + marker.length) content))
    have hall := hfirst.append hrest
    rw [Branch.roles, List.flatMap_cons, Token.roles_append, flattenBranch, Token.roles_cons]
    rwa [Token.roles_singleton] at hall

theorem grows_flatten : Grows (Branch.roles offset block.branches)
    (Token.roles offset block.flatten) :=
  grows_flattenBranches offset block.branches

end OpenBlock

/-! ## Assembly -/

namespace Assembly

/-- How far the text is read. -/
def position (assembly : Assembly) : Nat := assembly.source.length

/-- The settled roles inside open blocks and around them. The markers of an open block are not
settled. -/
def rolesFrom (base : List Token) : List OpenBlock → List (Nat × Role)
  | [] => Token.roles 0 base.reverse
  | block :: outer => rolesFrom base outer ++ Branch.roles (position ⟨base, outer⟩) block.branches

/-- The settled roles of what is read. -/
def roles (assembly : Assembly) : List (Nat × Role) := rolesFrom assembly.base assembly.stack

theorem position_cons (base : List Token) (block : OpenBlock) (outer : List OpenBlock) :
    position ⟨base, block :: outer⟩ =
      position ⟨base, outer⟩ + (Branch.sources block.branches).length := by
  simp [position, source, flattenAll, OpenBlock.sources_flatten, Nat.add_assoc]

theorem position_step (depth : Int) (assembly : Assembly) (piece : Piece) :
    (assembly.step depth piece).1.position = assembly.position + piece.source.length := by
  rw [position, source_step, List.length_append, position]

theorem roles_append (tokens : List Token) (assembly : Assembly) :
    (assembly.append tokens).roles = assembly.roles ++ Token.roles assembly.position tokens := by
  obtain ⟨base, stack⟩ := assembly
  cases stack with
  | nil => simp [append, roles, rolesFrom, position, source, flattenAll, Token.roles_append]
  | cons block outer =>
    simp only [append, roles, rolesFrom, OpenBlock.roles_append, position_cons, List.append_assoc]

/-- Open blocks that are given up keep the roles of their contents. -/
theorem grows_flattenAll (base : List Token) (inner outer : List OpenBlock) :
    Grows (rolesFrom base (inner ++ outer))
      (rolesFrom base outer ++ Token.roles (position ⟨base, outer⟩) (flattenAll inner)) := by
  induction inner with
  | nil => simpa [flattenAll] using Grows.refl _
  | cons block inner ih =>
    have hposition : position ⟨base, inner ++ outer⟩ =
        position ⟨base, outer⟩ + (Token.sources (flattenAll inner)).length := by
      simp [position, source, flattenAll, Nat.add_assoc]
    have hflat : flattenAll (block :: inner) = flattenAll inner ++ block.flatten := by
      simp [flattenAll]
    rw [List.cons_append, rolesFrom, hflat, Token.roles_append, ← List.append_assoc, hposition]
    exact ih.append (block.grows_flatten _)

/-- The roles that a piece settles. -/
def settled (assembly : Assembly) : Piece → List (Nat × Role)
  | .text source => Token.roles assembly.position [.literal source]
  | .tag mergeTag => [(assembly.position, .tag mergeTag)]
  | .marker (.closer kind) source =>
    match splitAtKind? kind assembly.stack with
    | none => Token.roles assembly.position [.literal source]
    | some (_, block, outer) =>
      if block.plain then []
      else [(assembly.position, .close kind (position ⟨assembly.base, outer⟩))]
  | .marker _ _ => []

theorem grows_startBranch (condition : Option Condition) (source : Text) (assembly : Assembly) :
    Grows assembly.roles (assembly.startBranch condition source).1.roles := by
  have htext : Grows assembly.roles (assembly.append [.literal source]).roles := by
    rw [roles_append]
    simpa using (Grows.refl assembly.roles).append (.literal assembly.position source)
  unfold startBranch
  split
  · exact htext
  · rename_i block outer hs
    split
    · exact htext
    · split
      · exact htext
      · simp only [roles, hs, rolesFrom, OpenBlock.roles_nextBranch]
        exact .refl _

theorem grows_closeBlock (kind : BlockKind) (source : Text) (assembly : Assembly) :
    Grows (assembly.roles ++ assembly.settled (.marker (.closer kind) source))
      (assembly.closeBlock kind source).1.roles := by
  cases hs : splitAtKind? kind assembly.stack with
  | none =>
    simp only [closeBlock, settled, hs, roles_append]
    exact .refl _
  | some found =>
    obtain ⟨inner, block, outer⟩ := found
    simp only [closeBlock, settled, hs]
    have hkind : block.kind = kind := kind_of_splitAtKind? hs
    have hstack := splitAtKind?_eq_some hs
    obtain ⟨base, stack⟩ := assembly
    subst hstack
    -- The blocks inside the closed one become text first, then the block takes that text.
    have hinner := grows_flattenAll base inner (block :: outer)
    rw [rolesFrom, position_cons, List.append_assoc, ← OpenBlock.roles_append] at hinner
    have hposition : position ⟨base, inner ++ block :: outer⟩ = position ⟨base, outer⟩ +
        (Branch.sources (block.append (flattenAll inner)).branches).length := by
      rw [← position_cons]
      simp [position, Assembly.source, flattenAll, OpenBlock.sources_flatten_append]
    rw [roles_append]
    simp only [roles, hposition]
    cases hp : block.plain with
    | true =>
      have hplain : (block.append (flattenAll inner)).plain = true := hp
      have hflat := (block.append (flattenAll inner)).grows_flatten (position ⟨base, outer⟩)
      have hlast := Grows.literal (position ⟨base, outer⟩ +
        (Token.sources (block.append (flattenAll inner)).flatten).length) source
      rw [OpenBlock.close, if_pos hplain, Token.roles_append]
      rw [if_pos rfl, List.append_nil]
      exact hinner.trans ((Grows.refl _).append (by simpa using hflat.append hlast))
    | false =>
      have hplain : ¬ (block.append (flattenAll inner)).plain = true := by
        simp [OpenBlock.append, hp]
      have hblock : (block.append (flattenAll inner)).kind = kind := hkind
      rw [OpenBlock.close, if_neg hplain, Token.roles_singleton, Token.rolesOne, hblock,
        ← List.append_assoc]
      exact hinner.append (.refl _)

/-- A piece settles its own roles and keeps those that were settled before. -/
theorem grows_step (depth : Int) (assembly : Assembly) (piece : Piece) :
    Grows (assembly.roles ++ assembly.settled piece) (assembly.step depth piece).1.roles := by
  match piece with
  | .text source =>
    show Grows _ (assembly.append [.literal source]).roles
    rw [roles_append]
    exact .refl _
  | .tag mergeTag =>
    show Grows _ (assembly.append [.tag mergeTag]).roles
    rw [roles_append, Token.roles_singleton, Token.rolesOne]
    exact .refl _
  | .marker (.opener kind condition) source =>
    simpa [step, openBlock, settled, roles, rolesFrom, OpenBlock.branches, Branch.roles,
      Token.coalesce] using Grows.refl _
  | .marker (.elseIf condition) source =>
    simpa [step, settled] using grows_startBranch _ source assembly
  | .marker .otherwise source => simpa [step, settled] using grows_startBranch none source assembly
  | .marker (.closer kind) source => exact grows_closeBlock kind source assembly

/-- The roles of a template are those that were settled when its text ended, and the markers of
open blocks are copied. -/
theorem grows_finish (assembly : Assembly) :
    Grows assembly.roles (Token.roles 0 assembly.finish.1) := by
  have h := grows_flattenAll assembly.base assembly.stack []
  rw [List.append_nil] at h
  have hbase : position ⟨assembly.base, []⟩ = (Token.sources assembly.base.reverse).length := by
    simp [position, source, flattenAll]
  rw [finish, Token.roles_coalesce, Token.roles_append, Nat.zero_add, ← hbase]
  exact h

end Assembly

end FormLetter
