import ScriptureMarkup.Proofs.Xml.Entity

namespace ScriptureMarkup.Xml

/-- A tag or some character data, with values and data as they are meant. -/
inductive Token
  | tag (label : Tag)
  | data (text : String)

namespace Token

def text : Token → List Char
  | .tag label => '<' :: label.escaped.text
  | .data text => (Usx.escapedText text).toList

def tag? : Token → Option Tag
  | .tag label => some label
  | .data _ => none

end Token

/-- Data that nothing separates is one piece of data, and between two tags there is always
some, even if it is empty. -/
def Content.ofTokens : List Token → Content
  | [] => ⟨"", []⟩
  | .data text :: tokens => ⟨text ++ (ofTokens tokens).lead, (ofTokens tokens).parts⟩
  | .tag tag :: tokens => ⟨"", (tag, (ofTokens tokens).lead) :: (ofTokens tokens).parts⟩

theorem Content.tags_ofTokens (tokens : List Token) : (ofTokens tokens).tags = tokens.filterMap Token.tag? := by
  induction tokens with
  | nil => rfl
  | cons token tokens ih =>
    rw [List.filterMap_cons, ← ih]
    cases token <;> simp [tags, ofTokens, Token.tag?]

theorem escapedText_append (first second : String) :
    Usx.escapedText (first ++ second) = Usx.escapedText first ++ Usx.escapedText second := by
  simp [Usx.escapedText]

theorem Content.text_ofTokens (tokens : List Token) :
    (ofTokens tokens).escaped.text = tokens.flatMap Token.text := by
  induction tokens with
  | nil => simp [ofTokens, escaped, text, Usx.escapedText]
  | cons token tokens ih =>
    rw [List.flatMap_cons, ← ih]
    cases token with
    | data => simp [ofTokens, escaped, text, Token.text, escapedText_append]
    | tag => simp [ofTokens, escaped, text, Token.text, Usx.escapedText, partText]

/-- A document as a tree, in which an element holds what lies between its two tags. -/
inductive Node
  | element (name : String) (attributes : List (String × String)) (children : List Node)
  | empty (name : String) (attributes : List (String × String))
  | data (text : String)

namespace Node

mutual

def tokens : Node → List Token
  | .element name attributes children =>
    .tag (.opening name attributes) :: (tokensAll children ++ [.tag (.closing name)])
  | .empty name attributes => [.tag (.empty name attributes)]
  | .data text => [.data text]

def tokensAll : List Node → List Token
  | [] => []
  | node :: nodes => node.tokens ++ tokensAll nodes

end

theorem tokensAll_append (front back : List Node) :
    tokensAll (front ++ back) = tokensAll front ++ tokensAll back := by
  induction front with
  | nil => simp [tokensAll]
  | cons node front ih => simp [tokensAll, ih]

end Node

/-- Every start tag has an end tag of the same name, and what lies between the two is
balanced again. -/
inductive Balanced : List Tag → Prop
  | nil : Balanced []
  | empty {name : String} {attributes : List (String × String)} {later : List Tag} :
      Balanced later → Balanced (.empty name attributes :: later)
  | element {name : String} {attributes : List (String × String)} {inner later : List Tag} :
      Balanced inner → Balanced later → Balanced (.opening name attributes :: (inner ++ .closing name :: later))

theorem Balanced.append {front back : List Tag} (first : Balanced front) (second : Balanced back) :
    Balanced (front ++ back) := by
  induction first with
  | nil => exact second
  | empty _ ih => exact .empty ih
  | element inner _ _ ih =>
    rw [List.cons_append, List.append_assoc, List.cons_append]
    exact .element inner ih

theorem Balanced.escaped {tags : List Tag} (balanced : Balanced tags) : Balanced (tags.map Tag.escaped) := by
  induction balanced with
  | nil => exact .nil
  | empty _ ih => exact .empty ih
  | element _ _ inside later =>
    rw [List.map_cons, List.map_append, List.map_cons]
    exact .element inside later

namespace Node

mutual

theorem balanced (node : Node) : Balanced (node.tokens.filterMap Token.tag?) := by
  match node with
  | .element name attributes children =>
    simp only [tokens, Token.tag?, List.filterMap_cons, List.filterMap_append, List.filterMap_nil]
    exact .element (balancedAll children) .nil
  | .empty _ _ => exact .empty .nil
  | .data _ => exact .nil

/-- The tags of a forest are balanced, since each element brings both of its own. -/
theorem balancedAll (nodes : List Node) : Balanced ((tokensAll nodes).filterMap Token.tag?) := by
  match nodes with
  | [] => exact .nil
  | node :: nodes =>
    rw [tokensAll, List.filterMap_append]
    exact node.balanced.append (balancedAll nodes)

end

end Node

end ScriptureMarkup.Xml
