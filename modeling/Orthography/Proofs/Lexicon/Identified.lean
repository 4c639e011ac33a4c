import Orthography.Proofs.Lexicon.FileText

/-!
# Files whose entries carry identifiers

An entry without an identifier gets a new one whenever it is read, so that reading a file twice does
not give the same entries.  If all entries of a file carry identifiers (`Entry.Identified`), what is
read from it depends on its bytes only, and no new identifier is drawn
(`Entry.ofFile?_of_identified`).
-/

namespace Orthography.Entry

set_option autoImplicit false

open Json (Form)

/-- Whether the form of an entry gives an identifier, the third of the members of an entry. -/
def carriesIdentifier (form : Form) : Bool :=
  match members? (Json.depthLimit - 2) memberNames form with
  | some (_ :: _ :: some _ :: _) => true
  | _ => false

/-- All entries in a file carry identifiers. -/
def Identified (bytes : ByteArray) : Prop :=
  ∀ forms ∈ forms? bytes, ∀ form ∈ forms, carriesIdentifier form = true

instance (bytes : ByteArray) : Decidable (Identified bytes) :=
  inferInstanceAs
    (Decidable (∀ forms ∈ forms? bytes, ∀ form ∈ forms, carriesIdentifier form = true))

/-- A file without entries has none without an identifier. -/
theorem identified_fileText_nil : Identified (fileText []).toUTF8 := by
  intro forms found
  rw [forms?_fileText fun _ impossible => absurd impossible List.not_mem_nil] at found
  cases found
  exact fun _ impossible => nomatch impossible

/-- An entry that carries an identifier is read without drawing one. -/
theorem ofForm?_of_carriesIdentifier {form : Form} (carries : carriesIdentifier form = true)
    {supply after : Supply} {entry : Entry}
    (read : ofForm? (Json.depthLimit - 2) form supply = some (entry, after)) (other : Supply) :
    ofForm? (Json.depthLimit - 2) form other = some (entry, other) := by
  unfold carriesIdentifier at carries
  split at carries
  · next head level id rest found =>
    rw [ofForm?, found] at read ⊢
    simp only [Option.bind_eq_bind, Option.bind_some] at read ⊢
    split at read
    · next list =>
      cases list
      simp only [Option.bind_eq_some_iff, Option.map_eq_some_iff, Option.pure_def,
        Option.some.injEq, Prod.mk.injEq] at read
      obtain ⟨_, ⟨value, identified, rfl⟩, form, head, headWord, word, level, levels, definition,
        definitions, equivalents, texts, links, ids, linked, others, metadata, free, notes, lines,
        extra, more, whole, -⟩ := read
      simp [identified, head, word, levels, definitions, texts, ids, others, free, lines, more,
        whole]
    · cases read
  · cases carries

/-- Entries that carry identifiers are read without drawing any. -/
theorem ofForms?_of_carriesIdentifier {forms : List Form}
    (carry : ∀ form ∈ forms, carriesIdentifier form = true) {supply after : Supply}
    {entries : List Entry}
    (read : ofForms? (Json.depthLimit - 2) forms supply = some (entries, after)) (other : Supply) :
    ofForms? (Json.depthLimit - 2) forms other = some (entries, other) := by
  induction forms generalizing supply entries with
  | nil =>
    cases read
    rfl
  | cons form rest ih =>
    rw [ofForms?] at read ⊢
    obtain ⟨⟨first, next⟩, head, read⟩ := Option.bind_eq_some_iff.mp read
    obtain ⟨⟨others, last⟩, tail, read⟩ := Option.bind_eq_some_iff.mp read
    cases read
    have later := ih (fun form member => carry form (List.mem_cons_of_mem _ member)) tail
    rw [ofForm?_of_carriesIdentifier (carry form List.mem_cons_self) head other]
    simp only [Option.bind_eq_bind, Option.bind_some, later, Option.pure_def]

/-- **What is read from entries that carry identifiers depends on the bytes only.** -/
theorem ofFile?_of_identified {bytes : ByteArray} (identified : Identified bytes)
    {supply after : Supply} {entries : List Entry}
    (read : ofFile? bytes supply = some (entries, after)) (other : Supply) :
    ofFile? bytes other = some (entries, other) := by
  rw [ofFile?_eq_bind] at read ⊢
  obtain ⟨forms, found, read⟩ := Option.bind_eq_some_iff.mp read
  rw [found, Option.bind_some]
  exact ofForms?_of_carriesIdentifier (identified forms found) read other

end Orthography.Entry
