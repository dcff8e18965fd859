import ServiceBindings.Code.Tokens

/-!
Code without its documentation. An attribute that documents is a hash, possibly with an exclamation mark behind it, and
a bracket that begins with `doc =`. Such attributes may be erased from the syntax or from its tokens: the tokens that
remain are the same.
-/

namespace ServiceBindings.Code

/-! ### Tokens -/

/-- Whether a token tree is the bracket of an attribute that documents. -/
def Token.isDoc : Token → Bool
  | .group .square (.leaf "doc" :: .leaf "=" :: _) => true
  | _ => false

/-- Whether a token is the sign that begins an attribute. -/
def Token.isHash : Token → Bool
  | .leaf "#" => true
  | _ => false

/-- What is behind the bracket of an attribute that documents, if code begins with one. -/
def afterDoc? : List Token → Option (List Token)
  | .leaf "!" :: a :: rest => if a.isDoc then some rest else none
  | a :: rest => if a.isDoc then some rest else none
  | [] => none

/-- Puts a token in front of code. If this completes an attribute that documents, the attribute goes. -/
def attach (t : Token) (code : List Token) : List Token :=
  if t.isHash then (afterDoc? code).getD (t :: code) else t :: code

mutual

/-- A token tree without the documentation in it. -/
def Token.erase : Token → Token
  | .leaf s => .leaf s
  | .group b items => .group b (eraseTokens items)

/-- Token trees without the attributes that document. -/
def eraseTokens : List Token → List Token
  | [] => []
  | t :: ts => attach t.erase (eraseTokens ts)

end

theorem eraseTokens_append (ts us : List Token) :
    eraseTokens (ts ++ us) = ts.foldr (fun t code => attach t.erase code) (eraseTokens us) := by
  induction ts with
  | nil => rfl
  | cons t ts ih => rw [List.cons_append, eraseTokens, ih, List.foldr_cons]

/-- Whether tokens are the same once documentation is erased, whatever comes after them. -/
def SameCode (ts us : List Token) : Prop :=
  ∀ rest, eraseTokens (ts ++ rest) = eraseTokens (us ++ rest)

namespace SameCode

variable {ts us ts' us' : List Token}

theorem refl (ts : List Token) : SameCode ts ts :=
  fun _ => rfl

theorem eraseTokens_eq (h : SameCode ts us) : eraseTokens ts = eraseTokens us := by
  simpa using h []

theorem append (h : SameCode ts us) (h' : SameCode ts' us') : SameCode (ts ++ ts') (us ++ us') := by
  intro rest
  rw [List.append_assoc, List.append_assoc, h, eraseTokens_append, h', ← eraseTokens_append]

theorem group (b : Brackets) (h : SameCode ts us) : SameCode [.group b ts] [.group b us] := by
  intro rest
  rw [List.singleton_append, List.singleton_append, eraseTokens, eraseTokens, Token.erase, Token.erase,
    h.eraseTokens_eq]

theorem flatMap {α : Type} {f g : α → List Token} (h : ∀ a, SameCode (f a) (g a)) (xs : List α) :
    SameCode (xs.flatMap f) (xs.flatMap g) := by
  induction xs with
  | nil => exact refl []
  | cons x xs ih =>
    rw [List.flatMap_cons, List.flatMap_cons]
    exact (h x).append ih

theorem terminated {α : Type} {f g : α → List Token} (h : ∀ a, SameCode (f a) (g a)) (mark : String) (xs : List α) :
    SameCode (Code.terminated mark (xs.map f)) (Code.terminated mark (xs.map g)) := by
  rw [Code.terminated, Code.terminated, List.flatMap_map, List.flatMap_map]
  exact flatMap (fun a => (h a).append (refl _)) xs

end SameCode

/-! ### Attributes -/

private theorem isDoc_erase_token (a : Attribute) : a.token.erase.isDoc = a.isDoc := by
  cases a <;>
    simp [Attribute.token, Token.erase, eraseTokens, attach, Token.isHash, Token.isDoc, Attribute.isDoc]

private theorem attach_bracket (a : Attribute) (code : List Token) :
    attach a.token.erase code = a.token.erase :: code := by
  cases a <;> rfl

/-- An attribute goes exactly if it documents. -/
theorem eraseTokens_attribute (a : Attribute) (rest : List Token) :
    eraseTokens ([.leaf "#", a.token] ++ rest) =
      if a.isDoc then eraseTokens rest else .leaf "#" :: a.token.erase :: eraseTokens rest := by
  have hbehind : afterDoc? (a.token.erase :: eraseTokens rest) = if a.isDoc then some (eraseTokens rest) else none := by
    rw [← isDoc_erase_token]
    cases a <;> rfl
  rw [List.cons_append, List.singleton_append, eraseTokens, eraseTokens, attach_bracket, attach, hbehind]
  cases a.isDoc <;> rfl

theorem eraseTokens_innerAttribute {a : Attribute} (h : a.isDoc = true) (rest : List Token) :
    eraseTokens ([.leaf "#", .leaf "!", a.token] ++ rest) = eraseTokens rest := by
  have hbehind : afterDoc? (.leaf "!" :: a.token.erase :: eraseTokens rest) = some (eraseTokens rest) := by
    rw [afterDoc?, isDoc_erase_token, h, if_pos rfl]
  have hbang : attach (.leaf "!") (a.token.erase :: eraseTokens rest) =
      .leaf "!" :: a.token.erase :: eraseTokens rest := rfl
  rw [List.cons_append, List.cons_append, List.singleton_append, eraseTokens, eraseTokens, eraseTokens, attach_bracket,
    Token.erase, Token.erase, hbang, attach, hbehind]
  rfl

theorem sameCode_attrTokens (attrs : List Attribute) :
    SameCode (attrTokens (undocumented attrs)) (attrTokens attrs) := by
  intro rest
  induction attrs with
  | nil => rfl
  | cons a attrs ih =>
    have hcons : attrTokens (a :: attrs) ++ rest = [.leaf "#", a.token] ++ (attrTokens attrs ++ rest) := by
      simp [attrTokens]
    rw [hcons, eraseTokens_attribute]
    cases hdoc : a.isDoc with
    | true => simpa [undocumented, hdoc] using ih
    | false =>
      have hkept : attrTokens (undocumented (a :: attrs)) ++ rest =
          [.leaf "#", a.token] ++ (attrTokens (undocumented attrs) ++ rest) := by
        simp [attrTokens, undocumented, hdoc]
      rw [hkept, eraseTokens_attribute, hdoc, ih]

/-- What a file says about itself goes altogether. -/
theorem sameCode_innerAttrTokens {docs : List Attribute} (h : ∀ a ∈ docs, a.isDoc = true) :
    SameCode [] (innerAttrTokens docs) := by
  intro rest
  induction docs with
  | nil => rfl
  | cons a docs ih =>
    obtain ⟨ha, hdocs⟩ := List.forall_mem_cons.mp h
    have hcons : innerAttrTokens (a :: docs) ++ rest =
        [.leaf "#", .leaf "!", a.token] ++ (innerAttrTokens docs ++ rest) := by
      simp [innerAttrTokens]
    rw [hcons, eraseTokens_innerAttribute ha, ih hdocs]

/-! ### Items -/

theorem sameCode_member (m : Member) : SameCode m.erase.tokens m.tokens := by
  match m with
  | .const attrs isPub name type value =>
    simp only [Member.erase, Member.tokens, List.append_assoc]
    exact (sameCode_attrTokens attrs).append (.refl _)
  | .alias name type => exact .refl _
  | .function attrs isPub signature body =>
    simp only [Member.erase, Member.tokens, List.append_assoc]
    exact (sameCode_attrTokens attrs).append (.refl _)

theorem sameCode_field (f : FieldDecl) :
    SameCode { f with attrs := undocumented f.attrs }.tokens f.tokens := by
  simp only [FieldDecl.tokens, List.append_assoc]
  exact (sameCode_attrTokens f.attrs).append (.refl _)

/-- The tokens of an item without its documentation are its tokens without documentation. -/
theorem sameCode_item (item : Item) : SameCode item.erase.tokens item.tokens := by
  cases item with
  | module name => exact .refl _
  | imports isPub path what => exact .refl _
  | struct attrs isPub name fields =>
    cases fields with
    | none =>
      simp only [Item.erase, Item.tokens, Option.map_none, List.append_assoc]
      exact (sameCode_attrTokens attrs).append (.refl _)
    | some fs =>
      simp only [Item.erase, Item.tokens, Option.map_some, List.append_assoc, List.map_map]
      refine (sameCode_attrTokens attrs).append ((SameCode.refl _).append ?_)
      exact (SameCode.refl [_, _]).append (.group .curly (.terminated sameCode_field "," fs))
  | enumeration attrs name variants =>
    simp only [Item.erase, Item.tokens, List.map_map]
    refine (sameCode_attrTokens attrs).append ((SameCode.refl [_, _, _]).append ?_)
    exact .group .curly (.terminated (fun v => (sameCode_attrTokens v.attrs).append (.refl _)) "," variants)
  | trait attrs name parents methods =>
    simp only [Item.erase, Item.tokens, List.append_assoc, List.map_map]
    refine (sameCode_attrTokens attrs).append ((SameCode.refl _).append ((SameCode.refl _).append ?_))
    exact .group .curly (.terminated (fun m => (sameCode_attrTokens m.1).append (.refl _)) ";" methods)
  | implementation lifetimes bound target members =>
    refine (SameCode.refl _).append ?_
    rw [List.flatMap_map]
    exact .group .curly (.flatMap sameCode_member members)

/-- Documentation may be erased from a file or from its tokens. -/
theorem eraseTokens_file {f : File} (h : ∀ a ∈ f.docs, a.isDoc = true) :
    eraseTokens f.tokens = eraseTokens f.erase.tokens := by
  have hitems : SameCode (f.items.map Item.erase |>.flatMap Item.tokens) (f.items.flatMap Item.tokens) := by
    rw [List.flatMap_map]
    exact .flatMap sameCode_item f.items
  exact ((sameCode_innerAttrTokens h).append hitems).eraseTokens_eq.symm

end ServiceBindings.Code
