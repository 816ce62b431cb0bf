import FormLetter.Proofs.Template.Marker

/-!
# Written templates

The token trees that stand for themselves: literals that open nothing, merge tags with their
identifier and modifiers, and blocks with their markers. Such a tree, written as text, is cut into
exactly the pieces it is made of.

* `Verbatim`: text that opens neither a tag nor a marker.
* `Written`: the token trees.
* `Token.pieces`: the pieces of a token tree.
* `lex_sources`: a written tree is cut into its pieces.
-/

namespace FormLetter

open Text

/-! ## Written tokens -/

/-- Text made of complete markup tags and of characters that open neither a markup tag nor a pair of
braces. -/
inductive Verbatim : Text → Prop where
  /-- No text. -/
  | nil : Verbatim []
  /-- A character in front. -/
  | char {c : Char} {text : Text} : c ≠ '<' → c ≠ '{' → Verbatim text → Verbatim (c :: text)
  /-- A markup tag in front. -/
  | tag {tag text : Text} : IsTag tag → Verbatim text → Verbatim (tag ++ text)

/-- The text of a condition: not blank, and without delimiters. -/
structure IsCondition (text : Text) : Prop where
  /-- It is not blank. -/
  not_blank : isAllBlank text = false
  /-- It holds no delimiter. -/
  bare : Bare text

/-- A marker with a word and the text of a condition. -/
def markerText (word : String) (condition : Text) : Text :=
  '{' :: (word.toList ++ ' ' :: condition ++ ['}'])

/-- The branches behind the first branch of a written block: alternatives with a condition, and at
most one without as the last. -/
inductive Alternatives : List Branch → Prop where
  /-- No more branches. -/
  | nil : Alternatives []
  /-- The last branch, without a condition. -/
  | otherwise {content : List Token} : Alternatives [.mk none "{else}".toList content]
  /-- A branch with a condition. -/
  | elseIf {condition : Text} {content : List Token} {branches : List Branch} :
    IsCondition condition → Alternatives branches →
      Alternatives
        (.mk (some (Condition.parse condition)) (markerText "elseif" condition) content :: branches)

/-- The branches of a written block: the first with a condition, and alternatives, which a block
that is kept or left out does not have. -/
inductive WrittenBranches (kind : BlockKind) : List Branch → Prop where
  /-- The first branch in front of the alternatives. -/
  | mk {condition : Text} {content : List Token} {branches : List Branch} :
    IsCondition condition → Alternatives branches → (kind = .listIf → branches = []) →
      WrittenBranches kind
        (.mk (some (Condition.parse condition)) (markerText kind.word condition) content ::
          branches)

/-- Whether tokens start with a literal. -/
def StartsLiteral (tokens : List Token) : Prop := ∃ source, tokens.head? = some (.literal source)

/-- The token trees that stand for themselves. -/
inductive Written : List Token → Prop where
  /-- No tokens. -/
  | nil : Written []
  /-- A literal that is not empty, in front of another kind of token. -/
  | literal {source : Text} {tokens : List Token} :
    source ≠ [] → Verbatim source → ¬ StartsLiteral tokens → Written tokens →
      Written (.literal source :: tokens)
  /-- A merge tag. -/
  | tag {mergeTag : MergeTag} {tokens : List Token} :
    mergeTag.IsWritten → Written tokens → Written (.tag mergeTag :: tokens)
  /-- A block with its closing marker. -/
  | block {kind : BlockKind} {branches : List Branch} {tokens : List Token} :
    WrittenBranches kind branches → (∀ branch ∈ branches, Written branch.content) →
      Written tokens → Written (.block kind branches kind.closeMarker.toList :: tokens)

/-! ## Pieces of tokens -/

/-- The piece of a block marker. -/
def Piece.ofMarker (source : Text) : Piece :=
  match Marker.ofContent? (source.drop 1).dropLast with
  | some read => .marker read source
  | none => .text source

mutual

/-- The pieces of a token. -/
def Token.piecesOne : Token → List Piece
  | .literal source => [.text source]
  | .tag mergeTag => [.tag mergeTag]
  | .block _ branches close => Branch.pieces branches ++ [.ofMarker close]

/-- The pieces of tokens. -/
def Token.pieces : List Token → List Piece
  | [] => []
  | token :: tokens => token.piecesOne ++ Token.pieces tokens

/-- The pieces of branches: the marker of each in front of its content. -/
def Branch.pieces : List Branch → List Piece
  | [] => []
  | .mk _ marker content :: branches =>
    .ofMarker marker :: (Token.pieces content ++ Branch.pieces branches)

end

/-- A text that is read as a marker: it is written in braces, without other delimiters, and its
content is that of the marker. -/
def ReadsAs (source : Text) (marker : Marker) : Prop :=
  ∃ content, source = '{' :: (content ++ ['}']) ∧ Bare content ∧
    (strip content).head? ≠ some '$' ∧ Marker.ofContent? content = some marker

theorem ReadsAs.ofMarker {source : Text} {marker : Marker} (h : ReadsAs source marker) :
    Piece.ofMarker source = .marker marker source := by
  obtain ⟨content, rfl, -, -, hread⟩ := h
  have hcontent : (('{' :: (content ++ ['}'])).drop 1).dropLast = content := by simp
  rw [Piece.ofMarker, hcontent, hread]

theorem bare_word_append {word : String} (hw : Bare word.toList) {condition : Text}
    (h : IsCondition condition) : Bare (word.toList ++ ' ' :: condition) :=
  bare_append.2 ⟨hw, bare_cons.2 ⟨by decide, h.bare⟩⟩

theorem readsAs_opener (kind : BlockKind) {condition : Text} (h : IsCondition condition) :
    ReadsAs (markerText kind.word condition) (.opener kind (strip condition)) := by
  have hword : Bare kind.word.toList := by cases kind <;> decide
  have hstrip : strip (kind.word.toList ++ ' ' :: condition) =
      kind.word.toList ++ ' ' :: stripRight condition :=
    strip_word_append (by cases kind <;> decide) (by cases kind <;> decide) h.not_blank
  refine ⟨_, rfl, bare_word_append hword h, ?_, Marker.ofContent?_opener kind h.not_blank⟩
  rw [hstrip]
  cases kind <;> exact fun he => nomatch he

theorem readsAs_elseIf {condition : Text} (h : IsCondition condition) :
    ReadsAs (markerText "elseif" condition) (.elseIf (strip condition)) := by
  have hstrip : strip ("elseif".toList ++ ' ' :: condition) =
      "elseif".toList ++ ' ' :: stripRight condition :=
    strip_word_append (by decide) (by decide) h.not_blank
  refine ⟨_, rfl, bare_word_append (by decide) h, ?_, Marker.ofContent?_elseIf h.not_blank⟩
  rw [hstrip]
  exact fun he => nomatch he

theorem readsAs_otherwise : ReadsAs "{else}".toList .otherwise :=
  ⟨"else".toList, rfl, by decide, by decide, by decide⟩

theorem readsAs_closer (kind : BlockKind) :
    ReadsAs kind.closeMarker.toList (.closer kind) := by
  cases kind with
  | ifBlock => exact ⟨"/if".toList, rfl, by decide, by decide, by decide⟩
  | listIf => exact ⟨"/listif".toList, rfl, by decide, by decide, by decide⟩

/-! ## Cutting written text -/

/-- Text in front of a rest is cut into pieces, whatever the offset. -/
def Cuts (text : Text) (pieces : List Piece) (rest : Text) : Prop :=
  ∀ offset, ∃ next, lexFrom offset (text ++ rest) =
    ⟨pieces ++ (lexFrom next rest).pieces, (lexFrom next rest).findings⟩

/-- A rest whose first piece is no text: text in front of it is a piece of its own. -/
def Breaks (rest : Text) : Prop :=
  ∀ offset source, (lexFrom offset rest).pieces.head? ≠ some (.text source)

theorem cuts_nil (rest : Text) : Cuts [] [] rest := fun offset => ⟨offset, rfl⟩

theorem Cuts.append {front back rest : Text} {pieces others : List Piece}
    (hf : Cuts front pieces (back ++ rest)) (hb : Cuts back others rest) :
    Cuts (front ++ back) (pieces ++ others) rest := by
  intro offset
  obtain ⟨middle, hm⟩ := hf offset
  obtain ⟨next, hn⟩ := hb middle
  exact ⟨next, by rw [List.append_assoc, hm, hn, List.append_assoc]⟩

theorem breaks_nil : Breaks [] := by
  intro offset source
  rw [lexFrom_nil]
  exact fun h => nomatch h

/-- Text that is cut into pieces breaks before the first of them. -/
theorem Cuts.breaks {text rest : Text} {piece : Piece} {pieces : List Piece}
    (h : Cuts text (piece :: pieces) rest) (hp : ∀ source, piece ≠ .text source) :
    Breaks (text ++ rest) := by
  intro offset source
  obtain ⟨next, hn⟩ := h offset
  rw [hn]
  exact fun he => hp source (Option.some.inj he)

/-! ### Leaves -/

theorem Lexed.behindText_behindText (lexed : Lexed) (front back : Text) :
    (lexed.behindText back []).behindText front [] = lexed.behindText (front ++ back) [] := by
  obtain ⟨pieces, findings⟩ := lexed
  rcases pieces with _ | ⟨piece, pieces⟩
  · rfl
  · cases piece <;> simp [behindText, Piece.consText]

theorem lexFrom_verbatim {text : Text} (h : Verbatim text) (hne : text ≠ []) (offset : Nat)
    (rest : Text) :
    lexFrom offset (text ++ rest) = (lexFrom (offset + text.length) rest).behindText text [] := by
  induction h generalizing offset with
  | nil => exact absurd rfl hne
  | @char c text hl hb _ ih =>
    rw [List.cons_append, lexFrom_char hl hb]
    by_cases htext : text = []
    · subst htext
      rfl
    · rw [ih htext, Lexed.behindText_behindText, List.length_cons, Nat.add_assoc,
        Nat.add_comm 1]
      rfl
  | @tag tag text htag _ ih =>
    rw [List.append_assoc, lexFrom_tag htag]
    by_cases htext : text = []
    · subst htext
      simp
    · rw [ih htext, Lexed.behindText_behindText, List.length_append, Nat.add_assoc]

theorem cuts_literal {source rest : Text} (h : Verbatim source) (hne : source ≠ [])
    (hr : Breaks rest) : Cuts source [.text source] rest := by
  intro offset
  refine ⟨offset + source.length, ?_⟩
  rw [lexFrom_verbatim h hne]
  have hbreak := hr (offset + source.length)
  generalize lexFrom (offset + source.length) rest = lexed at hbreak ⊢
  obtain ⟨pieces, findings⟩ := lexed
  rcases pieces with _ | ⟨piece, pieces⟩
  · rfl
  · cases piece with
    | text next => exact absurd rfl (hbreak next)
    | _ => rfl

theorem cuts_tag {tag : MergeTag} (h : tag.IsWritten) (rest : Text) :
    Cuts tag.source [.tag tag] rest := by
  intro offset
  refine ⟨offset + tag.content.length + 2, ?_⟩
  have hsource : tag.source ++ rest = '{' :: (tag.content ++ '}' :: rest) := by simp [h.source]
  have hsign : (strip tag.content).head? = some '$' := by
    rw [h.strip_content]
    rfl
  have hread := MergeTag.read_written h
  rw [h.source] at hread
  rw [hsource, lexFrom_braces h.bare_content, Lexed.behindBraces, if_pos hsign, List.cons_append,
    hread]
  rfl

theorem cuts_marker {source : Text} {marker : Marker} (h : ReadsAs source marker) (rest : Text) :
    Cuts source [.ofMarker source] rest := by
  intro offset
  rw [h.ofMarker]
  obtain ⟨content, rfl, hbare, hsign, hread⟩ := h
  refine ⟨offset + content.length + 2, ?_⟩
  have hsource : '{' :: (content ++ ['}']) ++ rest = '{' :: (content ++ '}' :: rest) := by simp
  rw [hsource, lexFrom_braces hbare, Lexed.behindBraces, if_neg hsign, hread]
  rfl

theorem breaks_marker {source : Text} {marker : Marker} (h : ReadsAs source marker)
    (rest : Text) : Breaks (source ++ rest) := by
  refine (cuts_marker h rest).breaks fun text he => ?_
  rw [h.ofMarker] at he
  cases he

/-! ### Trees -/

/-- The branches are written with markers. -/
theorem Alternatives.readsAs {branches : List Branch} (h : Alternatives branches) :
    ∀ branch ∈ branches, ∃ marker, ReadsAs branch.marker marker := by
  induction h with
  | nil => exact fun _ hb => absurd hb List.not_mem_nil
  | otherwise =>
    intro branch hb
    rw [List.mem_singleton.1 hb]
    exact ⟨_, readsAs_otherwise⟩
  | elseIf hc _ ih => exact List.forall_mem_cons.2 ⟨⟨_, readsAs_elseIf hc⟩, ih⟩

theorem WrittenBranches.readsAs {kind : BlockKind} {branches : List Branch}
    (h : WrittenBranches kind branches) :
    ∀ branch ∈ branches, ∃ marker, ReadsAs branch.marker marker := by
  cases h with
  | mk hc ha _ => exact List.forall_mem_cons.2 ⟨⟨_, readsAs_opener kind hc⟩, ha.readsAs⟩

theorem breaks_branches {branches : List Branch}
    (hm : ∀ branch ∈ branches, ∃ marker, ReadsAs branch.marker marker) {rest : Text}
    (hr : Breaks rest) : Breaks (Branch.sources branches ++ rest) := by
  cases branches with
  | nil =>
    rw [Branch.sources]
    exact hr
  | cons branch branches =>
    obtain ⟨condition, source, content⟩ := branch
    obtain ⟨marker, hread⟩ := hm _ List.mem_cons_self
    rw [Branch.sources, Branch.source, List.append_assoc, List.append_assoc]
    exact breaks_marker hread _

theorem cuts_branches {branches : List Branch}
    (hm : ∀ branch ∈ branches, ∃ marker, ReadsAs branch.marker marker)
    (hc : ∀ branch ∈ branches, ∀ rest, Breaks rest →
      Cuts (Token.sources branch.content) (Token.pieces branch.content) rest)
    {rest : Text} (hr : Breaks rest) :
    Cuts (Branch.sources branches) (Branch.pieces branches) rest := by
  induction branches with
  | nil =>
    rw [Branch.sources, Branch.pieces]
    exact cuts_nil rest
  | cons branch branches ih =>
    obtain ⟨condition, source, content⟩ := branch
    obtain ⟨⟨marker, hread⟩, hmarkers⟩ := List.forall_mem_cons.1 hm
    obtain ⟨hcontent, hcontents⟩ := List.forall_mem_cons.1 hc
    rw [Branch.sources, Branch.source, Branch.pieces, List.append_assoc]
    refine (cuts_marker hread _).append ((hcontent _ ?_).append (ih hmarkers hcontents))
    exact breaks_branches hmarkers hr

/-- Tokens that start with no literal do not join the text in front of them. -/
theorem Written.breaks {tokens : List Token} (h : Written tokens) (hl : ¬ StartsLiteral tokens)
    {rest : Text} (hr : Breaks rest) : Breaks (Token.sources tokens ++ rest) := by
  cases h with
  | nil =>
    rw [Token.sources_nil]
    exact hr
  | literal => exact absurd ⟨_, rfl⟩ hl
  | tag htag =>
    rw [Token.sources_cons, Token.source_tag, List.append_assoc]
    exact (cuts_tag htag _).breaks fun _ he => nomatch he
  | @block kind branches tokens hb =>
    rw [Token.sources_cons, Token.source, List.append_assoc, List.append_assoc]
    exact breaks_branches hb.readsAs (breaks_marker (readsAs_closer kind) _)

/-- A written tree is cut into its pieces, in front of anything that does not join it. -/
theorem cuts_written {tokens : List Token} (h : Written tokens) (rest : Text) (hr : Breaks rest) :
    Cuts (Token.sources tokens) (Token.pieces tokens) rest := by
  induction h generalizing rest with
  | nil =>
    rw [Token.sources_nil, Token.pieces]
    exact cuts_nil rest
  | @literal source tokens hne hv hl htokens ih =>
    rw [Token.sources_cons, Token.source_literal, Token.pieces, Token.piecesOne]
    exact (cuts_literal hv hne (htokens.breaks hl hr)).append (ih rest hr)
  | @tag mergeTag tokens htag _ ih =>
    rw [Token.sources_cons, Token.source_tag, Token.pieces, Token.piecesOne]
    exact (cuts_tag htag _).append (ih rest hr)
  | @block kind branches tokens hb _ _ hcontents ih =>
    rw [Token.sources_cons, Token.source, Token.pieces, Token.piecesOne]
    have hclose := cuts_marker (readsAs_closer kind) (Token.sources tokens ++ rest)
    have hbreak := breaks_marker (readsAs_closer kind) (Token.sources tokens ++ rest)
    exact ((cuts_branches hb.readsAs hcontents hbreak).append hclose).append (ih rest hr)

/-- A written tree is cut into its pieces, and nothing is noticed. -/
theorem lex_sources {tokens : List Token} (h : Written tokens) :
    lex (Token.sources tokens) = ⟨Token.pieces tokens, []⟩ := by
  obtain ⟨next, hn⟩ := cuts_written h [] breaks_nil 0
  rwa [List.append_nil, lexFrom_nil, List.append_nil] at hn

end FormLetter
