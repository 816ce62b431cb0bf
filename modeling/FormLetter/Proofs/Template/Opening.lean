import FormLetter.Proofs.Template.Brace
import FormLetter.Proofs.Template.Reflection

/-!
# The openings of merge tags

Wherever a text opens a merge tag outside markup tags, the template has that tag, or it is reported
as malformed or as never closed; whatever the block markers and the limits do, no opening is lost
and none counts twice.

* `OpensAt`, `ClosedAt`: where merge tags are opened, and which of them are closed.
* `Account`, `accountOf`: what becomes of an opening.
* `lexFrom_accounts`: cutting a text accounts for its openings.
* `Assembly.tags_run`: pairing markers keeps all merge tags in their order.
* `Token.tags_walk`: walking a template finds its merge tags in the order of the text.
* `Template.accounts_parse`: every opening is accounted for once.
-/

namespace FormLetter

open Text

/-! ## Openings -/

/-- A merge tag is opened at a position outside markup tags, with a certain sign. -/
def OpensAt (text sign : Text) (position : Nat) : Prop :=
  ∃ rest, BraceAt text position rest ∧ Signed sign rest

/-- The next delimiter behind the brace at a position is a closing brace. -/
def ClosedAt (text : Text) (position : Nat) : Prop :=
  ∃ rest, BraceAt text position rest ∧ Closed rest

theorem BraceAt.eq {text rest other : Text} {position : Nat} (h : BraceAt text position rest)
    (h' : BraceAt text position other) : rest = other := by
  obtain ⟨front, rfl, hlength, -⟩ := h
  obtain ⟨before, he, hbefore, -⟩ := h'
  exact (List.cons.inj (List.append_inj he (hlength.symm.trans hbefore)).2).2

theorem closedAt_iff {text rest : Text} {position : Nat} (h : BraceAt text position rest) :
    ClosedAt text position ↔ Closed rest :=
  ⟨fun ⟨_, ho, hc⟩ => h.eq ho ▸ hc, fun hc => ⟨rest, h, hc⟩⟩

/-- What becomes of an opening. -/
inductive Account where
  /-- It is a merge tag of the template. -/
  | tag (tag : MergeTag)
  /-- It is reported as malformed. -/
  | malformed (source : Text)
  /-- It is reported as never closed. -/
  | unterminated (source : Text)

namespace Account

/-- The opening as it is written, as far as it belongs to the tag. -/
def source : Account → Text
  | .tag mergeTag => mergeTag.source
  | .malformed source => source
  | .unterminated source => source

/-- The merge tag at a position. -/
def tag? : Nat × Account → Option (Nat × MergeTag)
  | (position, .tag mergeTag) => some (position, mergeTag)
  | _ => none

/-- The malformed tag at a position. -/
def malformed? : Nat × Account → Option Text
  | (_, .malformed source) => some source
  | _ => none

/-- The opening at a position that is never closed. -/
def unterminated? : Nat × Account → Option (Nat × Text)
  | (position, .unterminated source) => some (position, source)
  | _ => none

end Account

/-- The malformed tag that a finding reports. -/
def Finding.malformed? : Finding → Option Text
  | .malformedTag source => some source
  | _ => none

/-- The opening that a finding reports as never closed, with its position. -/
def Finding.unterminated? : Finding → Option (Nat × Text)
  | .unterminatedTag source offset => some (offset, source)
  | _ => none

/-- What becomes of a brace in front of a text, unless it opens no merge tag. -/
def accountOf (rest : Text) : Option Account :=
  match takeBraces? rest with
  | some (content, _) =>
    if (strip content).head? = some '$' then
      match MergeTag.read ('{' :: content ++ ['}']) content with
      | (some mergeTag, _) => some (.tag mergeTag)
      | (none, _) => some (.malformed ('{' :: content ++ ['}']))
    else none
  | none => (openedTag? rest).map .unterminated

section

variable {rest content tail : Text} {account : Account}

theorem filterMap_readModifiers {β : Type} {f : Finding → Option β}
    (hf : ∀ segment source fault, f (.skippedModifier segment source fault) = none)
    (source : Text) (segments : List Text) :
    (readModifiers source segments).2.filterMap f = [] := by
  induction segments with
  | nil => rfl
  | cons segment segments ih =>
    rw [readModifiers] at ih ⊢
    rw [List.foldr_cons]
    cases Modifier.parse segment with
    | ok modifier => exact ih
    | error fault =>
      rw [List.filterMap_cons, hf]
      exact ih

/-- A pair of braces with a sign becomes a merge tag, or it is reported as malformed and nothing
else is. -/
theorem MergeTag.read_cases (source content : Text) :
    (∃ mergeTag findings, MergeTag.read source content = (some mergeTag, findings) ∧
        mergeTag.source = source ∧ findings.filterMap Finding.malformed? = [] ∧
        findings.filterMap Finding.unterminated? = []) ∨
      MergeTag.read source content = (none, [.malformedTag source]) := by
  unfold MergeTag.read
  split
  · exact Or.inr rfl
  · exact Or.inl ⟨_, _, rfl, rfl, rfl, rfl⟩
  · exact Or.inl ⟨_, _, rfl, rfl, filterMap_readModifiers (fun _ _ _ => rfl) _ _,
      filterMap_readModifiers (fun _ _ _ => rfl) _ _⟩
  · exact Or.inr rfl

theorem accountOf_of_closed (hc : Bare content) (tail : Text) :
    accountOf (content ++ '}' :: tail) =
      if (strip content).head? = some '$' then
        match MergeTag.read ('{' :: content ++ ['}']) content with
        | (some mergeTag, _) => some (.tag mergeTag)
        | (none, _) => some (.malformed ('{' :: content ++ ['}']))
      else none := by
  rw [accountOf, takeBraces?_append hc]

theorem accountOf_of_not_closed (h : ¬ Closed rest) :
    accountOf rest = (openedTag? rest).map .unterminated := by
  rw [closed_iff, Option.not_isSome_iff_eq_none] at h
  rw [accountOf, h]

/-- A closed opening has its account between the braces. -/
theorem exists_accountOf (hc : Bare content) (hs : (strip content).head? = some '$') (tail : Text) :
    ∃ account, accountOf (content ++ '}' :: tail) = some account ∧
      account.source = '{' :: content ++ ['}'] ∧
      ∀ source, account ≠ .unterminated source := by
  rw [accountOf_of_closed hc, if_pos hs]
  rcases MergeTag.read_cases ('{' :: content ++ ['}']) content with
    ⟨mergeTag, findings, hr, hsource, -⟩ | hr
  · rw [hr]
    exact ⟨_, rfl, hsource, fun _ => Account.noConfusion⟩
  · rw [hr]
    exact ⟨_, rfl, rfl, fun _ => Account.noConfusion⟩

/-- Openings with a dollar sign have an account, and those with another sign if they are never
closed. -/
theorem isSome_accountOf_iff :
    (accountOf rest).isSome ↔
      Signed ['$'] rest ∨
        (Signed "&#36;".toList rest ∨ Signed "&#x24;".toList rest) ∧ ¬ Closed rest := by
  by_cases h : Closed rest
  · obtain ⟨content, tail, rfl, hc⟩ := h
    have hclosed : Closed (content ++ '}' :: tail) := ⟨content, tail, rfl, hc⟩
    rw [signed_append_iff, signed_iff_head?, or_iff_left fun hs => hs.2 hclosed]
    constructor
    · intro ha
      by_contra hs
      rw [accountOf_of_closed hc, if_neg hs] at ha
      cases ha
    · intro hs
      obtain ⟨account, ha, -⟩ := exists_accountOf hc hs tail
      rw [ha]
      rfl
  · rw [accountOf_of_not_closed h, Option.isSome_map, isSome_openedTag?_iff]
    simp [tagSigns, h]

theorem source_of_closed (hc : Bare content)
    (h : accountOf (content ++ '}' :: tail) = some account) :
    account.source = '{' :: content ++ ['}'] ∧ ∀ source, account ≠ .unterminated source := by
  have hs : (strip content).head? = some '$' := by
    by_contra hs
    rw [accountOf_of_closed hc, if_neg hs] at h
    cases h
  obtain ⟨other, ho, hother⟩ := exists_accountOf hc hs tail
  cases ho.symm.trans h
  exact hother

/-- An opening that has an account is never closed exactly if its account says so. -/
theorem exists_unterminated_iff (h : accountOf rest = some account) :
    (∃ source, account = .unterminated source) ↔ ¬ Closed rest := by
  by_cases hc : Closed rest
  · obtain ⟨content, tail, rfl, hbare⟩ := hc
    refine iff_of_false (fun ⟨source, hs⟩ => (source_of_closed hbare h).2 source hs) ?_
    exact not_not_intro ⟨content, tail, rfl, hbare⟩
  · rw [accountOf_of_not_closed hc] at h
    obtain ⟨source, -, rfl⟩ := Option.map_eq_some_iff.1 h
    exact iff_of_true ⟨source, rfl⟩ hc

/-- The source of an account is written where the opening stands. -/
theorem isPrefix_source (h : accountOf rest = some account) : account.source <+: '{' :: rest := by
  by_cases hc : Closed rest
  · obtain ⟨content, tail, rfl, hbare⟩ := hc
    rw [(source_of_closed hbare h).1]
    exact ⟨tail, by simp⟩
  · rw [accountOf_of_not_closed hc] at h
    obtain ⟨source, hs, rfl⟩ := Option.map_eq_some_iff.1 h
    obtain ⟨-, -, -, hprefix⟩ := openedTag?_eq_some hs
    exact hprefix

end

/-! ## Cutting -/

/-- The merge tag that a piece is at its position. -/
def Piece.tag? : Nat × Piece → Option (Nat × MergeTag)
  | (position, .tag mergeTag) => some (position, mergeTag)
  | _ => none

/-- The merge tags among pieces, the first of which starts at an offset. -/
def Piece.tags (offset : Nat) (pieces : List Piece) : List (Nat × MergeTag) :=
  (Piece.located offset pieces).filterMap Piece.tag?

@[simp] theorem Piece.tags_nil (offset : Nat) : Piece.tags offset [] = [] := rfl

theorem Piece.tags_cons (offset : Nat) (piece : Piece) (pieces : List Piece) :
    Piece.tags offset (piece :: pieces) =
      Piece.tags offset [piece] ++ Piece.tags (offset + piece.source.length) pieces :=
  Piece.filterMap_located Piece.tag? offset piece pieces

theorem Piece.tags_consText (offset : Nat) (source : Text) (pieces : List Piece) :
    Piece.tags offset (Piece.consText source pieces) =
      Piece.tags (offset + source.length) pieces := by
  unfold Piece.consText
  split
  · simp [Piece.tags, Piece.located, Piece.tag?, Piece.source, List.filterMap_cons, Nat.add_assoc]
  · rfl

/-- What was cut from a text that starts at an offset accounts for openings: the merge tags among
the pieces and the reports are those of the accounts. -/
structure Lexed.Accounts (offset : Nat) (lexed : Lexed) (accounts : List (Nat × Account)) :
    Prop where
  /-- The merge tags are the same. -/
  tags : Piece.tags offset lexed.pieces = accounts.filterMap Account.tag?
  /-- The malformed tags are the same. -/
  malformed : lexed.findings.filterMap Finding.malformed? =
    accounts.filterMap Account.malformed?
  /-- The openings that are never closed are the same. -/
  unterminated : lexed.findings.filterMap Finding.unterminated? =
    accounts.filterMap Account.unterminated?

namespace Lexed.Accounts

variable {offset : Nat} {lexed : Lexed} {accounts : List (Nat × Account)}

/-- Text in front, with what is noticed about it. -/
theorem behindText {source : Text} {findings : List Finding} (front : List (Nat × Account))
    (h : lexed.Accounts (offset + source.length) accounts)
    (htags : front.filterMap Account.tag? = [])
    (hmalformed : findings.filterMap Finding.malformed? = front.filterMap Account.malformed?)
    (hunterminated : findings.filterMap Finding.unterminated? =
      front.filterMap Account.unterminated?) :
    (lexed.behindText source findings).Accounts offset (front ++ accounts) := by
  refine ⟨?_, ?_, ?_⟩
  · rw [Lexed.behindText, Piece.tags_consText, h.tags, List.filterMap_append, htags,
      List.nil_append]
  · rw [Lexed.behindText, List.filterMap_append, hmalformed, h.malformed, List.filterMap_append]
  · rw [Lexed.behindText, List.filterMap_append, hunterminated, h.unterminated,
      List.filterMap_append]

/-- A piece in front, with what is noticed about it. -/
theorem behindPiece (piece : Piece) {findings : List Finding} (front : List (Nat × Account))
    (h : lexed.Accounts (offset + piece.source.length) accounts)
    (htags : Piece.tags offset [piece] = front.filterMap Account.tag?)
    (hmalformed : findings.filterMap Finding.malformed? = front.filterMap Account.malformed?)
    (hunterminated : findings.filterMap Finding.unterminated? =
      front.filterMap Account.unterminated?) :
    (lexed.behindPiece piece findings).Accounts offset (front ++ accounts) := by
  refine ⟨?_, ?_, ?_⟩
  · rw [Lexed.behindPiece, Piece.tags_cons, h.tags, List.filterMap_append, htags]
  · rw [Lexed.behindPiece, List.filterMap_append, hmalformed, h.malformed, List.filterMap_append]
  · rw [Lexed.behindPiece, List.filterMap_append, hunterminated, h.unterminated,
      List.filterMap_append]

end Lexed.Accounts

/-- The account of a brace at its position. -/
def accountAt (brace : Nat × Text) : Option (Nat × Account) :=
  (accountOf brace.2).map fun account => (brace.1, account)

/-- The accounts of the openings of a text that starts at an offset. -/
def accountsFrom (offset : Nat) (text : Text) : List (Nat × Account) :=
  (bracesFrom offset text).filterMap accountAt

theorem accountsFrom_brace (offset : Nat) (rest : Text) :
    accountsFrom offset ('{' :: rest) =
      (accountAt (offset, rest)).toList ++ accountsFrom (offset + 1) rest := by
  rw [accountsFrom, bracesFrom_brace, List.filterMap_cons, accountsFrom]
  cases accountAt (offset, rest) <;> rfl

/-- A pair of braces is accounted for. -/
theorem Lexed.Accounts.behindBraces {offset : Nat} {lexed : Lexed}
    {accounts : List (Nat × Account)} {content : Text} (hc : Bare content)
    (h : lexed.Accounts (offset + content.length + 2) accounts) (tail : Text) :
    (lexed.behindBraces ('{' :: content ++ ['}']) content).Accounts offset
      ((accountAt (offset, content ++ '}' :: tail)).toList ++ accounts) := by
  have hlength : offset + ('{' :: content ++ ['}']).length = offset + content.length + 2 := by
    simp [Nat.add_assoc]
  rw [← hlength] at h
  rw [Lexed.behindBraces, accountAt, accountOf_of_closed hc]
  split
  · rcases MergeTag.read_cases ('{' :: content ++ ['}']) content with
      ⟨mergeTag, findings, hr, hsource, hmalformed, hunterminated⟩ | hr
    · rw [hr]
      rw [← hsource] at h
      exact behindPiece (.tag mergeTag) [(offset, .tag mergeTag)] h rfl hmalformed hunterminated
    · rw [hr]
      exact behindText [(offset, .malformed _)] h rfl rfl rfl
  · split
    · exact behindPiece (.marker _ _) [] h rfl rfl rfl
    · exact behindText [] h rfl rfl rfl

/-- Cutting a text accounts for its openings. -/
theorem lexFrom_accounts (offset : Nat) (text : Text) :
    (lexFrom offset text).Accounts offset (accountsFrom offset text) := by
  fun_induction lexFrom offset text with
  | case1 offset =>
    rw [accountsFrom, bracesFrom_nil]
    exact ⟨rfl, rfl, rfl⟩
  | case2 offset rest tag tail h ih =>
    rw [accountsFrom, bracesFrom_tag h]
    exact Lexed.Accounts.behindText [] ih rfl rfl rfl
  | case3 offset rest h ih =>
    rw [accountsFrom, bracesFrom_lt h]
    exact Lexed.Accounts.behindText [] ih rfl rfl rfl
  | case4 offset rest content tail h ih =>
    have hc := bare_of_takeBraces? h
    have hskip : accountsFrom (offset + 1) rest =
        accountsFrom (offset + content.length + 2) tail := by
      rw [takeBraces?_eq_some h, accountsFrom, bracesFrom_append hc,
        bracesFrom_cons (by decide) (by decide), accountsFrom]
      congr 2
      omega
    rw [accountsFrom_brace, hskip, takeBraces?_eq_some h]
    exact ih.behindBraces hc tail
  | case5 offset rest h ih =>
    have hopen : ¬ Closed rest := by rw [closed_iff, h]; exact Bool.false_ne_true
    rw [accountsFrom_brace, accountAt, accountOf_of_not_closed hopen]
    refine Lexed.Accounts.behindText _ ih ?_ ?_ ?_ <;> cases openedTag? rest <;> rfl
  | case6 offset c rest hl hb ih =>
    rw [accountsFrom, bracesFrom_cons hl hb]
    exact Lexed.Accounts.behindText [] ih rfl rfl rfl

/-! ## Pairing -/

namespace Assembly

/-- The tokens of pieces as they stand have the same merge tags. -/
theorem tags_plainTokens (offset : Nat) (pieces : List Piece) :
    (Token.roles offset (pieces.map plainToken)).filterMap Role.tag? =
      Piece.tags offset pieces := by
  induction pieces generalizing offset with
  | nil => rw [List.map_nil, Token.roles_nil]; rfl
  | cons piece pieces ih =>
    have hfirst : ((plainToken piece).rolesOne offset).filterMap Role.tag? =
        Piece.tags offset [piece] := by
      rw [← Token.roles_singleton]
      cases piece with
      | tag mergeTag => rw [plainToken, Token.roles_singleton, Token.rolesOne]; rfl
      | _ => exact (Grows.literal offset _).tags
    have hsource : (plainToken piece).source = piece.source := by
      cases piece <;> exact Token.source_literal _
    rw [List.map_cons, Token.roles_cons, List.filterMap_append, ih, hfirst, hsource,
      Piece.tags_cons _ piece pieces]

/-- A piece settles its merge tag. -/
theorem tags_settled (assembly : Assembly) (piece : Piece) :
    (assembly.settled piece).filterMap Role.tag? = Piece.tags assembly.position [piece] := by
  match piece with
  | .text source => exact (Grows.literal _ _).tags
  | .tag mergeTag => rfl
  | .marker (.closer kind) source =>
    simp only [settled]
    split
    · exact (Grows.literal _ _).tags
    · split <;> rfl
  | .marker (.opener _ _) source => rfl
  | .marker (.elseIf _) source => rfl
  | .marker .otherwise source => rfl

/-- Pairing markers keeps all merge tags in their order, within the limits and beyond. -/
theorem tags_run (depth limit : Int) (budget : Nat) (assembly : Assembly) (pieces : List Piece) :
    Token.tags (run depth limit budget assembly pieces).1 =
      assembly.roles.filterMap Role.tag? ++ Piece.tags assembly.position pieces := by
  induction pieces generalizing budget assembly with
  | nil => rw [run, Token.tags, (grows_finish assembly).tags, Piece.tags_nil, List.append_nil]
  | cons piece pieces ih =>
    simp only [run]
    split
    · rw [Token.tags, (grows_finish _).tags, roles_append, List.filterMap_append, tags_plainTokens]
    · rw [ih, (grows_step depth assembly piece).tags, List.filterMap_append, tags_settled,
        position_step, Piece.tags_cons _ piece pieces, List.append_assoc]

end Assembly

/-! ## Walking -/

/-- The merge tag that a token is. -/
def Token.tag? : Token → Option MergeTag
  | .tag mergeTag => some mergeTag
  | _ => none

mutual

theorem Token.tags_walkOne (offset : Nat) :
    (token : Token) → token.walkOne.filterMap Token.tag? =
      ((token.rolesOne offset).filterMap Role.tag?).map Prod.snd
  | .literal source => by
    rw [← Token.roles_singleton, (Grows.literal offset source).tags, Token.walkOne]
    · rfl
    · exact fun _ _ _ => Token.noConfusion
  | .tag mergeTag => by
    rw [Token.rolesOne, Token.walkOne]
    · rfl
    · exact fun _ _ _ => Token.noConfusion
  | .block kind branches close => by
    rw [Token.walkOne, Token.rolesOne, List.filterMap_append, List.map_append,
      ← Branch.tags_walk offset branches]
    exact (List.append_nil _).symm

/-- A walk through tokens finds their merge tags in the order of the text. -/
theorem Token.tags_walk (offset : Nat) :
    (tokens : List Token) → (Token.walk tokens).filterMap Token.tag? =
      ((Token.roles offset tokens).filterMap Role.tag?).map Prod.snd
  | [] => by
    rw [Token.walk, Token.roles_nil]
    rfl
  | token :: tokens => by
    rw [Token.walk, Token.roles_cons, List.filterMap_append, List.filterMap_append,
      List.map_append, Token.tags_walkOne offset token,
      Token.tags_walk (offset + token.source.length) tokens]

theorem Branch.tags_walk (offset : Nat) :
    (branches : List Branch) → (Branch.walk branches).filterMap Token.tag? =
      ((Branch.roles offset branches).filterMap Role.tag?).map Prod.snd
  | [] => by
    rw [Branch.walk, Branch.roles_nil]
    rfl
  | .mk _ marker content :: branches => by
    rw [Branch.walk, Branch.walkOne, Branch.roles, List.filterMap_append, List.filterMap_append,
      List.map_append, Token.tags_walk (offset + marker.length) content,
      Branch.tags_walk (offset + (marker ++ Token.sources content).length) branches]

end

/-! ## Templates -/

namespace Template

/-- The openings of a text with their accounts. -/
def openings (text : Text) : List (Nat × Account) := accountsFrom 0 text

section

variable {text : Text} {position : Nat} {account : Account}

theorem mem_openings :
    (position, account) ∈ openings text ↔
      ∃ rest, BraceAt text position rest ∧ accountOf rest = some account := by
  simp only [openings, accountsFrom, List.mem_filterMap, accountAt, Option.map_eq_some_iff,
    Prod.exists, mem_bracesFrom, Nat.zero_add, exists_eq_left', Prod.mk.injEq]
  constructor
  · rintro ⟨_, rest, hb, _, ha, rfl, rfl⟩
    exact ⟨rest, hb, ha⟩
  · rintro ⟨rest, hb, ha⟩
    exact ⟨position, rest, hb, account, ha, rfl, rfl⟩

/-- The openings stand one behind the other. -/
theorem openings_sorted (text : Text) : (openings text).Pairwise fun a b => a.1 < b.1 := by
  refine (bracesFrom_sorted 0 text).filterMap accountAt fun first last hlt => ?_
  intro account ha other ho
  obtain ⟨_, -, rfl⟩ := Option.map_eq_some_iff.1 ha
  obtain ⟨_, -, rfl⟩ := Option.map_eq_some_iff.1 ho
  exact hlt

/-- Every opening with a dollar sign has an account, and the others have one if they are never
closed. -/
theorem exists_mem_openings_iff :
    (∃ account, (position, account) ∈ openings text) ↔
      OpensAt text ['$'] position ∨
        (OpensAt text "&#36;".toList position ∨ OpensAt text "&#x24;".toList position) ∧
          ¬ ClosedAt text position := by
  by_cases hbrace : ∃ rest, BraceAt text position rest
  · obtain ⟨rest, hb⟩ := hbrace
    have hopens (sign : Text) : OpensAt text sign position ↔ Signed sign rest :=
      ⟨fun ⟨_, ho, hs⟩ => hb.eq ho ▸ hs, fun hs => ⟨rest, hb, hs⟩⟩
    rw [hopens, hopens, hopens, closedAt_iff hb, ← isSome_accountOf_iff,
      Option.isSome_iff_exists]
    refine exists_congr fun account => ?_
    rw [mem_openings]
    exact ⟨fun ⟨_, ho, ha⟩ => hb.eq ho ▸ ha, fun ha => ⟨rest, hb, ha⟩⟩
  · have hopens (sign : Text) : ¬ OpensAt text sign position :=
      fun ⟨rest, hb, _⟩ => hbrace ⟨rest, hb⟩
    refine iff_of_false (fun ⟨account, ha⟩ => ?_) (by simp [hopens])
    obtain ⟨rest, hb, -⟩ := mem_openings.1 ha
    exact hbrace ⟨rest, hb⟩

/-- An account has its source from the text, and it says whether the opening is ever closed. -/
theorem source_of_mem_openings (h : (position, account) ∈ openings text) :
    account.source <+: text.drop position ∧
      ((∃ source, account = .unterminated source) ↔ ¬ ClosedAt text position) := by
  obtain ⟨rest, hb, ha⟩ := mem_openings.1 h
  rw [closedAt_iff hb]
  refine ⟨?_, exists_unterminated_iff ha⟩
  obtain ⟨front, rfl, rfl, -⟩ := hb
  rw [List.drop_left]
  exact isPrefix_source ha

end

/-- Pairing markers adds nothing to what is noticed about openings. -/
theorem filterMap_findings {β : Type} {f : Finding → Option β}
    (hf : ∀ finding, finding.marker?.isSome → f finding = none) (limits : Limits) (text : Text) :
    (parse limits text).findings.filterMap f = (lex text).findings.filterMap f := by
  have hrun := Assembly.isSome_marker?_run limits.depth (budget limits text)
    (budget limits text).toNat .start (lex text).pieces
  have hnone : (Assembly.run limits.depth (budget limits text) (budget limits text).toNat .start
      (lex text).pieces).2.filterMap f = [] :=
    List.filterMap_eq_nil_iff.2 fun finding hm => hf finding (hrun finding hm)
  rw [parse, List.filterMap_append, hnone, List.append_nil]

section

variable (limits : Limits) (text : Text)

theorem tags_parse :
    Token.tags (parse limits text).tokens = (openings text).filterMap Account.tag? := by
  rw [parse, Assembly.tags_run]
  exact (lexFrom_accounts 0 text).tags

theorem malformed_parse : (parse limits text).findings.filterMap Finding.malformed? =
    (openings text).filterMap Account.malformed? := by
  rw [filterMap_findings fun finding h => by cases finding <;> first | rfl | cases h]
  exact (lexFrom_accounts 0 text).malformed

theorem unterminated_parse : (parse limits text).findings.filterMap Finding.unterminated? =
    (openings text).filterMap Account.unterminated? := by
  rw [filterMap_findings fun finding h => by cases finding <;> first | rfl | cases h]
  exact (lexFrom_accounts 0 text).unterminated

end

/-- An opening is reported as never closed where that is its account. -/
theorem unterminatedTag_mem_iff {limits : Limits} {text source : Text} {position : Nat} :
    Finding.unterminatedTag source position ∈ (parse limits text).findings ↔
      (position, .unterminated source) ∈ openings text := by
  have hfinding : Finding.unterminatedTag source position ∈ (parse limits text).findings ↔
      (position, source) ∈ (parse limits text).findings.filterMap Finding.unterminated? := by
    rw [List.mem_filterMap]
    refine ⟨fun h => ⟨_, h, rfl⟩, fun ⟨finding, hf, he⟩ => ?_⟩
    cases finding <;> cases he
    exact hf
  have haccount : (position, .unterminated source) ∈ openings text ↔
      (position, source) ∈ (openings text).filterMap Account.unterminated? := by
    rw [List.mem_filterMap]
    refine ⟨fun h => ⟨_, h, rfl⟩, fun ⟨⟨_, account⟩, ha, he⟩ => ?_⟩
    cases account <;> cases he
    exact ha
  rw [hfinding, haccount, unterminated_parse]

/-- Whatever its sign, an opening is reported as never closed if and only if no closing brace is the
next delimiter. -/
theorem exists_unterminatedTag_iff {limits : Limits} {text sign : Text} {position : Nat}
    (hs : sign ∈ tagSigns) (ho : OpensAt text sign position) :
    (∃ source, Finding.unterminatedTag source position ∈ (parse limits text).findings) ↔
      ¬ ClosedAt text position := by
  simp only [unterminatedTag_mem_iff]
  constructor
  · rintro ⟨source, hm⟩
    exact (source_of_mem_openings hm).2.1 ⟨source, rfl⟩
  · intro hc
    have hopens : OpensAt text ['$'] position ∨
        (OpensAt text "&#36;".toList position ∨ OpensAt text "&#x24;".toList position) ∧
          ¬ ClosedAt text position := by
      simp only [tagSigns, List.mem_cons, List.not_mem_nil, or_false] at hs
      rcases hs with rfl | rfl | rfl
      · exact Or.inl ho
      · exact Or.inr ⟨Or.inl ho, hc⟩
      · exact Or.inr ⟨Or.inr ho, hc⟩
    obtain ⟨account, hm⟩ := exists_mem_openings_iff.2 hopens
    obtain ⟨source, rfl⟩ := (source_of_mem_openings hm).2.2 hc
    exact ⟨source, hm⟩

/-- **No opening of a merge tag is lost or counts twice.** With a nesting limit of at least one, and
whatever the budget of markers, the openings of a text outside markup tags have accounts in the
order of the text: those with a dollar sign all, and those with another sign if no closing brace is
their next delimiter. The merge tags of the template, in the order of a walk, are those of the
accounts, and so are the reports of malformed tags and of tags that are never closed. -/
theorem accounts_parse {limits : Limits} (hd : 1 ≤ limits.depth) (text : Text) :
    isRefused limits text = false ∧
      ∃ accounts : List (Nat × Account),
        (accounts.Pairwise fun a b => a.1 < b.1) ∧
        (∀ position, (∃ account, (position, account) ∈ accounts) ↔
          OpensAt text ['$'] position ∨
            (OpensAt text "&#36;".toList position ∨ OpensAt text "&#x24;".toList position) ∧
              ¬ ClosedAt text position) ∧
        (∀ position account, (position, account) ∈ accounts →
          account.source <+: text.drop position ∧
            ((∃ source, account = .unterminated source) ↔ ¬ ClosedAt text position)) ∧
        Token.tags (parse limits text).tokens = accounts.filterMap Account.tag? ∧
        (Token.walk (parse limits text).tokens).filterMap Token.tag? =
          (accounts.filterMap Account.tag?).map Prod.snd ∧
        (parse limits text).findings.filterMap Finding.malformed? =
          accounts.filterMap Account.malformed? ∧
        (parse limits text).findings.filterMap Finding.unterminated? =
          accounts.filterMap Account.unterminated? ∧
        ∀ sign ∈ tagSigns, ∀ position, OpensAt text sign position →
          ((∃ source, Finding.unterminatedTag source position ∈ (parse limits text).findings) ↔
            ¬ ClosedAt text position) := by
  refine ⟨isRefused_of_one_le hd text, openings text, openings_sorted text,
    fun _ => exists_mem_openings_iff, fun _ _ => source_of_mem_openings, tags_parse limits text, ?_,
    malformed_parse limits text, unterminated_parse limits text,
    fun sign hs position ho => exists_unterminatedTag_iff hs ho⟩
  rw [Token.tags_walk 0, ← tags_parse limits text, Token.tags]

/-- Beyond the budget of markers: tags, a malformed one, two that are never closed, one that is
closed and has another sign, and one inside a markup tag. -/
theorem accounts_parse_mixed :
    let limits : Limits := ⟨1, some 0⟩
    let text := ("{if $A}{ $B}<i t=\"{$C}\">{$}" ++ "\x7b$D {&#36;E} \x7b&#x24;F{$G|upper}").toList
    1 ≤ limits.depth ∧
      ∃ accounts : List (Nat × Account), (accounts.Pairwise fun a b => a.1 < b.1) ∧
        Token.tags (parse limits text).tokens = accounts.filterMap Account.tag? ∧
        (accounts.filterMap Account.tag?).map (fun tag => (tag.1, tag.2.source)) =
          [(7, "{ $B}".toList), (48, "{$G|upper}".toList)] ∧
        accounts.filterMap Account.malformed? = ["{$}".toList] ∧
        accounts.filterMap Account.unterminated? =
          [(27, "\x7b$D".toList), (40, "\x7b&#x24;F".toList)] := by
  intro limits text
  have hdepth : 1 ≤ limits.depth := by decide
  obtain ⟨-, accounts, hsorted, -, -, htags, -, hmalformed, hunterminated, -⟩ :=
    accounts_parse hdepth text
  refine ⟨hdepth, accounts, hsorted, htags, ?_, ?_, ?_⟩
  · rw [← htags]
    decide +kernel
  · rw [← hmalformed]
    decide +kernel
  · rw [← hunterminated]
    decide +kernel

end Template

end FormLetter
