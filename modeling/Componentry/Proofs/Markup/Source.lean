import Componentry.Markup.Source
import Componentry.Proofs.Markup.TagName
import Componentry.Proofs.Outcome

/-!
# Source trees that are read

The names of tags and attributes are in lower case from the first token on, and elements have names
that start with a letter. Every token that enters the tree keeps this, so it holds of every source
tree that is read:

* `Markup.tidy_of_tokenize`: the names that tokens have;
* `Markup.Builder.Tidy.add`: a token keeps a tree that is being built tidy;
* `Markup.tidy_of_sources`: the source trees of a markup text are tidy.
-/

namespace Componentry.Markup

/-! ### Tokens -/

/-- The names that a token has are in lower case, and a start tag names an element. -/
def Token.Tidy : Token → Prop
  | .startTag name attributes _ => IsTagName name ∧ ∀ pair ∈ attributes, pair.1.lower = pair.1
  | .endTag name => name.lower = name
  | _ => True

/-- The tokens of a step. -/
def Step.tokens : Step → List Token
  | .more tokens _ _ => tokens
  | .halt tokens _ => tokens

theorem tidy_text (content : Text) : ∀ token ∈ [Token.text content], token.Tidy := by
  simp [Token.Tidy]

theorem tidy_textTokens (t : Text) : ∀ token ∈ textTokens t, token.Tidy := by
  rw [textTokens]
  split
  · exact List.forall_mem_nil _
  · exact tidy_text t

theorem lower_of_resolveAttributes {attributes resolved : List (Text × Text)}
    (h : resolveAttributes attributes = .ok resolved) :
    ∀ pair ∈ resolved, pair.1.lower = pair.1 := by
  induction attributes generalizing resolved with
  | nil =>
    cases h
    exact List.forall_mem_nil _
  | cons pair attributes ih =>
    rw [resolveAttributes] at h
    obtain ⟨value, -, h⟩ := Except.bind_eq_ok.1 h
    obtain ⟨rest, hrest, h⟩ := Except.bind_eq_ok.1 h
    cases h
    exact List.forall_mem_cons.2 ⟨Text.lower_lower _, ih hrest⟩

theorem tidy_scanTag {t rest : Text} {tokens : List Token} {raw : Option Text}
    (h : scanTag t = .ok (some (tokens, raw, rest))) : ∀ token ∈ tokens, token.Tidy := by
  rw [scanTag] at h
  split at h
  · cases h
  · cases h
    exact tidy_text _
  next hread =>
    split at h
    · cases h
    next hattributes =>
      cases h
      exact List.forall_mem_singleton.2
        ⟨isTagName_of_readTag hread, lower_of_resolveAttributes hattributes⟩

theorem tidy_scanEndTag {t rest : Text} {tokens : List Token} {raw : Option Text}
    (h : scanEndTag t = some (tokens, raw, rest)) : ∀ token ∈ tokens, token.Tidy := by
  obtain ⟨⟨inside, _⟩, -, heq⟩ := Option.map_eq_some_iff.1 h
  cases heq
  split
  · exact List.forall_mem_singleton.2 (Text.lower_lower _)
  · split
    · exact List.forall_mem_singleton.2 (Text.lower_lower _)
    · split
      · exact List.forall_mem_nil _
      · exact List.forall_mem_singleton.2 trivial

theorem tidy_sectionToken (content : Text) : (sectionToken content).Tidy := by
  rw [sectionToken]
  split <;> trivial

theorem tidy_scanSection {t rest : Text} {tokens : List Token} {raw : Option Text}
    (h : scanSection t = .ok (some (tokens, raw, rest))) : ∀ token ∈ tokens, token.Tidy := by
  cases t with
  | nil => cases h
  | cons c t =>
    rw [scanSection] at h
    split at h
    · dsimp only at h
      split at h
      · cases h
      · split at h
        · cases h
        · obtain ⟨⟨_, _⟩, -, heq⟩ := Option.map_eq_some_iff.1 (Except.ok.inj h)
          cases heq
          exact List.forall_mem_singleton.2 (tidy_sectionToken _)
    · cases h

theorem tidy_scanDeclaration {t rest : Text} {tokens : List Token} {raw : Option Text}
    (h : scanDeclaration t = .ok (some (tokens, raw, rest))) :
    ∀ token ∈ tokens, token.Tidy := by
  rw [scanDeclaration.eq_def] at h
  split at h
  · exact tidy_scanSection h
  · obtain ⟨⟨_, _⟩, -, heq⟩ := Option.map_eq_some_iff.1 (Except.ok.inj h)
    dsimp only at heq
    split at heq <;> cases heq <;> exact List.forall_mem_singleton.2 trivial

theorem tidy_scanConstruct {t rest : Text} {tokens : List Token} {raw : Option Text}
    (h : scanConstruct t = .ok (some (tokens, raw, rest))) : ∀ token ∈ tokens, token.Tidy := by
  rw [scanConstruct.eq_def] at h
  split at h
  · exact tidy_scanEndTag (Except.ok.inj h)
  · obtain ⟨⟨_, _⟩, -, heq⟩ := Option.map_eq_some_iff.1 (Except.ok.inj h)
    cases heq
    exact List.forall_mem_singleton.2 trivial
  · obtain ⟨⟨_, _⟩, -, heq⟩ := Option.map_eq_some_iff.1 (Except.ok.inj h)
    cases heq
    exact List.forall_mem_singleton.2 trivial
  · exact tidy_scanDeclaration h
  · exact tidy_scanTag h

theorem tidy_stepBracket {final : Bool} {t : Text} {s : Step}
    (h : stepBracket final t = .ok s) : ∀ token ∈ s.tokens, token.Tidy := by
  rw [stepBracket.eq_def] at h
  split at h
  · cases h
    exact List.forall_mem_nil _
  · split at h
    · split at h
      · cases h
      next hscan =>
        cases h
        exact tidy_scanConstruct hscan
      · split at h <;> cases h
        · exact tidy_text _
        · exact List.forall_mem_nil _
    · cases h
      exact tidy_text _

theorem tidy_stepNumeric {t : Text} {s : Step} (h : stepNumeric t = .ok s) :
    ∀ token ∈ s.tokens, token.Tidy := by
  have hfailed : ∀ {s : Step}, Except.ok (ε := Rejection)
      (if t.contains ';' then .halt [.text "&#"] t else .halt [] ('&' :: '#' :: t)) = .ok s →
      ∀ token ∈ s.tokens, token.Tidy := by
    intro s h
    split at h <;> cases h
    · exact tidy_text _
    · exact List.forall_mem_nil _
  rw [stepNumeric] at h
  split at h
  · exact hfailed h
  · split at h
    · exact hfailed h
    · split at h
      · exact hfailed h
      · split at h <;> cases h
        exact tidy_text _

theorem tidy_stepNamed (final : Bool) (t : Text) :
    ∀ token ∈ (stepNamed final t).tokens, token.Tidy := by
  rw [stepNamed.eq_def]
  split
  · exact tidy_text _
  · split
    · exact List.forall_mem_nil _
    · split
      · split <;> exact List.forall_mem_nil _
      · exact tidy_text _

theorem tidy_stepRaw (name t : Text) :
    ∀ token ∈ (stepRaw name t).tokens, token.Tidy := by
  rw [stepRaw]
  split
  · exact List.forall_mem_nil _
  · split
    · exact List.forall_mem_nil _
    · split
      next hname =>
        -- the name has been compared with one that is in lower case
        obtain ⟨plain, -, rfl⟩ := Option.map_eq_some_iff.1 hname
        exact List.forall_mem_append.2
          ⟨tidy_textTokens _, List.forall_mem_singleton.2 (Text.lower_lower _)⟩
      · exact tidy_text _

/-- The tokens of a step are tidy. -/
theorem tidy_step {final : Bool} {raw : Option Text} {t : Text} {s : Step}
    (h : step final raw t = .ok s) : ∀ token ∈ s.tokens, token.Tidy := by
  rw [step.eq_def] at h
  split at h
  · cases h
    exact tidy_stepRaw _ _
  · split at h
    · cases h
      exact List.forall_mem_nil _
    · exact tidy_stepBracket h
    · exact tidy_stepNumeric h
    · cases h
      exact tidy_stepNamed _ _
    · cases h
      exact tidy_text _

theorem tidy_steps {final : Bool} {fuel : Nat} {p q : Progress}
    (h : steps final fuel p = .ok q) (hp : ∀ token ∈ p.tokens, token.Tidy) :
    ∀ token ∈ q.tokens, token.Tidy := by
  induction fuel generalizing p with
  | zero =>
    cases h
    exact hp
  | succ fuel ih =>
    have hadd : ∀ {tokens : List Token}, (∀ token ∈ tokens, token.Tidy) →
        ∀ token ∈ tokens.reverse ++ p.tokens, token.Tidy := fun htokens =>
      List.forall_mem_append.2 ⟨fun token hmem => htokens token (List.mem_reverse.1 hmem), hp⟩
    rw [steps] at h
    split at h
    · cases h
    next hstep =>
      cases h
      exact hadd (tidy_step hstep)
    next hstep => exact ih h (hadd (tidy_step hstep))

/-- The tokens of a markup text are tidy. -/
theorem tidy_of_tokenize {t : Text} {tokens : List Token} (h : tokenize t = .ok tokens) :
    ∀ token ∈ tokens, token.Tidy := by
  obtain ⟨first, hfirst, h⟩ := Except.bind_eq_ok.1 h
  obtain ⟨second, hsecond, h⟩ := Except.bind_eq_ok.1 h
  cases h
  have hread := tidy_steps hsecond (tidy_steps hfirst (List.forall_mem_nil _))
  refine List.forall_mem_append.2 ⟨fun token hmem => hread token (List.mem_reverse.1 hmem), ?_⟩
  split
  · exact List.forall_mem_nil _
  · exact tidy_textTokens _

/-! ### Trees -/

/-- The elements of a source tree have names of elements. -/
inductive Source.Tidy : Source → Prop
  /-- An element. -/
  | element {name : Text} {attributes : List (Text × AttributeValue)} {children : List Source} :
      IsTagName name → (∀ child ∈ children, child.Tidy) →
      (Source.element name attributes children).Tidy
  /-- Running text. -/
  | text (content : Text) : (Source.text content).Tidy
  /-- A comment. -/
  | comment (content : Text) : (Source.comment content).Tidy
  /-- A section of literal text. -/
  | literal (content : Text) : (Source.literal content).Tidy
  /-- A declaration. -/
  | instruction (content : Text) : (Source.instruction content).Tidy

/-- What is closed becomes a tidy element, whatever tidy children are still added to it. -/
structure OpenElement.Tidy (e : OpenElement) : Prop where
  /-- The name is that of an element. -/
  name : IsTagName e.name
  /-- The children so far are tidy. -/
  children : ∀ child ∈ e.children, child.Tidy

theorem OpenElement.Tidy.close {e : OpenElement} (h : e.Tidy) : e.close.Tidy :=
  .element h.name fun child hchild => h.children child (List.mem_reverse.1 hchild)

namespace Builder

/-- A tree that is being built is tidy, and so it will be once everything is closed. -/
structure Tidy (b : Builder) : Prop where
  /-- The open elements are tidy. -/
  stack : ∀ e ∈ b.stack, e.Tidy
  /-- The nodes outside of all elements are tidy. -/
  top : ∀ node ∈ b.top, node.Tidy

theorem tidy_empty : empty.Tidy := ⟨List.forall_mem_nil _, List.forall_mem_nil _⟩

theorem Tidy.append {b : Builder} (h : b.Tidy) {node : Source} (hnode : node.Tidy) :
    (b.append node).Tidy := by
  rw [Builder.append]
  split
  next hstack => exact ⟨h.stack, List.forall_mem_cons.2 ⟨hnode, h.top⟩⟩
  next e stack hstack =>
    obtain ⟨he, hrest⟩ := List.forall_mem_cons.1 (hstack ▸ h.stack)
    exact ⟨List.forall_mem_cons.2 ⟨⟨he.name, List.forall_mem_cons.2 ⟨hnode, he.children⟩⟩, hrest⟩,
      h.top⟩

theorem Tidy.flush {b : Builder} (h : b.Tidy) : b.flush.Tidy := by
  rw [Builder.flush]
  split
  · exact h
  · exact Tidy.append (b := { b with pending := [] }) ⟨h.stack, h.top⟩ (.text _)

theorem Tidy.closeInnermost {b : Builder} (h : b.Tidy) : b.closeInnermost.Tidy := by
  rw [Builder.closeInnermost]
  split
  · exact h
  next e stack hstack =>
    obtain ⟨he, hrest⟩ := List.forall_mem_cons.1 (hstack ▸ h.stack)
    exact Tidy.append (b := { b with stack }) ⟨hrest, h.top⟩ he.close

theorem Tidy.closeMany {b : Builder} (h : b.Tidy) (count : Nat) : (b.closeMany count).Tidy := by
  induction count generalizing b with
  | zero => exact h
  | succ count ih => exact ih h.closeInnermost

theorem Tidy.closeNamed {b : Builder} (h : b.Tidy) (name : Text) : (b.closeNamed name).Tidy := by
  rw [Builder.closeNamed]
  split
  · exact h.flush.closeMany _
  · exact h.flush

theorem Tidy.endTag {b : Builder} (h : b.Tidy) (name : Text) : (b.endTag name).Tidy := by
  rw [Builder.endTag]
  split
  · exact ⟨h.stack, h.top⟩
  · exact h.closeNamed name

theorem Tidy.endSlash {b : Builder} (h : b.Tidy) (rule : SlashRule) (name : Text) :
    (b.endSlash rule name).Tidy := by
  cases rule with
  | closes => exact h.closeNamed name
  | endTag => exact h.endTag name

theorem Tidy.openElement {b : Builder} (h : b.Tidy) {name : Text} (hname : IsTagName name)
    (attributes : List (Text × Text)) : (b.openElement name attributes).Tidy :=
  ⟨List.forall_mem_cons.2 ⟨⟨hname, List.forall_mem_nil _⟩, h.stack⟩, h.top⟩

theorem Tidy.startTag {b : Builder} (h : b.Tidy) (rule : SlashRule) {name : Text}
    (hname : IsTagName name) (attributes : List (Text × Text)) (closed : Bool) :
    (b.startTag rule name attributes closed).Tidy := by
  have hopen := h.flush.openElement hname attributes
  rw [Builder.startTag]
  dsimp only
  split
  · exact hopen.endSlash rule name
  · split
    · exact ⟨hopen.closeInnermost.stack, hopen.closeInnermost.top⟩
    · exact hopen

/-- A token keeps a tree that is being built tidy. -/
theorem Tidy.add {b : Builder} (h : b.Tidy) (rule : SlashRule) {token : Token}
    (htoken : token.Tidy) : (b.add rule token).Tidy := by
  cases token with
  | text content => exact ⟨h.stack, h.top⟩
  | startTag name attributes closed => exact h.startTag rule htoken.1 attributes closed
  | endTag name => exact h.endTag name
  | comment content => exact h.flush.append (.comment _)
  | literal content => exact h.flush.append (.literal _)
  | instruction content => exact h.flush.append (.instruction _)

theorem Tidy.foldl {b : Builder} (h : b.Tidy) (rule : SlashRule) {tokens : List Token}
    (htokens : ∀ token ∈ tokens, token.Tidy) : (tokens.foldl (Builder.add rule) b).Tidy := by
  induction tokens generalizing b with
  | nil => exact h
  | cons token tokens ih =>
    obtain ⟨htoken, htokens⟩ := List.forall_mem_cons.1 htokens
    exact ih (h.add rule htoken) htokens

theorem Tidy.finish {b : Builder} (h : b.Tidy) : ∀ node ∈ b.finish, node.Tidy := fun node hnode =>
  (h.flush.closeMany _).top node (List.mem_reverse.1 hnode)

end Builder

/-- The source trees of a markup text are tidy. -/
theorem tidy_of_sources {rule : SlashRule} {t : Text} {trees : List Source}
    (h : sources rule t = .ok trees) : ∀ tree ∈ trees, tree.Tidy := by
  obtain ⟨tokens, htokens, h⟩ := Except.bind_eq_ok.1 h
  cases h
  exact (Builder.tidy_empty.foldl rule (tidy_of_tokenize htokens)).finish

end Componentry.Markup
