import IdentityConsole.Proofs.Json.Meaning
import IdentityConsole.Proofs.Storage.Sharing

/-!
# Files that cannot be used

Every access begins by reading the whole file. So a file that cannot be read is never written, and
of the accesses to a file that can be read only a set can fail, where there is no place for the
file. What fails leaves the file as it was.
-/

namespace IdentityConsole

namespace Json

open Draft (Key)

/-- A text shows an object of which each member, in order, is a text under a key, and nothing but
blanks beside it. -/
def ShowsTexts (text : String) (written : List (String × String)) : Prop :=
  Draft.ofText text =
    (.object (written.map fun entry => (Key.name entry.1, .string (some entry.2))) true, true)

theorem entries_string_eq_ok {depth : Nat} {drafts : List (Key × Draft)}
    {written : List (String × String)} :
    Decoder.entries Decoder.string depth drafts = .ok written ↔
      drafts = written.map fun entry => (Key.name entry.1, .string (some entry.2)) := by
  have hmember : ∀ (member : Key × Draft) (entry : String × String),
      (member.1 = .name entry.1 ∧ Decoder.string depth member.2 = .ok entry.2) ↔
        member = (.name entry.1, .string (some entry.2)) := by
    rintro ⟨key, draft⟩ ⟨name, text⟩
    constructor
    · rintro ⟨rfl, htext⟩
      exact congrArg (Key.name name, ·) (eq_string_of_textFor htext)
    · rintro ⟨⟩
      exact ⟨rfl, rfl⟩
  simp only [entries_eq_ok_iff, hmember]
  rw [← List.forall₂_eq_eq_eq, List.forall₂_map_right_iff]

theorem decode_dict_string_eq_ok {text : String} {entries : Dict String} :
    decode (Decoder.dict Decoder.string) text = .ok entries ↔
      ∃ written, ShowsTexts text written ∧ Dict.ofList written = entries := by
  have hdeeper : deeper nestingLimit = .ok (nestingLimit - 1) := rfl
  constructor
  · intro h
    obtain ⟨draft, htext, hdraft⟩ := ofText_of_decode h
    unfold Decoder.dict at hdraft
    split at hdraft
    · next members closed =>
      simp only [hdeeper, ok_bind, bind_eq_ok, whenClosed_eq_ok] at hdraft
      obtain ⟨written, hwritten, -, rfl, hdraft⟩ := hdraft
      refine ⟨written, ?_, Except.ok.inj hdraft⟩
      rw [ShowsTexts, htext, entries_string_eq_ok.mp hwritten]
    · exact (not_mismatch hdraft).elim
  · rintro ⟨written, hwritten, rfl⟩
    unfold ShowsTexts at hwritten
    simp only [decode, hwritten, Decoder.dict, hdeeper, ok_bind, entries_string_eq_ok.mpr rfl]
    rfl

end Json

namespace FileSlot

/-- What stands at the path of the file cannot be read as entries: it is a directory, or a file that
holds no text, or a text that is neither blank nor an object of texts. -/
inductive Unreadable : FileSlot → Prop
  | directory : Unreadable .directory
  | notText {content : List UInt8} (h : ∀ text, content ≠ Text.Utf8.encode text) :
      Unreadable (.file content)
  | notEntries {text : String} (hblank : ¬Text.Blank text)
      (hobject : ∀ written, ¬Json.ShowsTexts text written) :
      Unreadable (.file (Text.Utf8.encode text))

end FileSlot

namespace FileStore

theorem parse_eq_error {text : String} :
    (∃ fault, parse text = .error fault) ↔
      ¬Text.Blank text ∧ ∀ written, ¬Json.ShowsTexts text written := by
  rw [← Text.trim_eq_empty, parse]
  constructor
  · rintro ⟨fault, h⟩
    split at h
    · cases h
    · next hblank =>
      refine ⟨hblank, fun written hwritten => ?_⟩
      rw [Json.decode_dict_string_eq_ok.mpr ⟨written, hwritten, rfl⟩] at h
      cases h
  · rintro ⟨hblank, hobject⟩
    rw [if_neg hblank]
    cases hdecode : Json.decode (Json.Decoder.dict Json.Decoder.string) text with
    | error fault => exact ⟨fault, rfl⟩
    | ok entries =>
      obtain ⟨written, hwritten, -⟩ := Json.decode_dict_string_eq_ok.mp hdecode
      exact absurd hwritten (hobject written)

variable {store : FileStore}

theorem entries_eq_error : (∃ error, store.entries = .error error) ↔ store.slot.Unreadable := by
  obtain ⟨path, slot⟩ := store
  constructor
  · rintro ⟨error, h⟩
    cases slot with
    | absent | blocked fault => cases h
    | directory => exact .directory
    | file content =>
      simp only [entries, FileSlot.read] at h
      cases htext : Text.Utf8.decode? content with
      | none =>
        refine .notText fun text hcontent => ?_
        rw [Text.Utf8.decode?_eq_some_iff.mpr hcontent] at htext
        cases htext
      | some text =>
        rw [Text.Utf8.decode?_eq_some_iff.mp htext]
        rw [htext] at h
        have hparse : ∃ fault, parse text = .error fault := by
          cases hparse : parse text with
          | error fault => exact ⟨fault, rfl⟩
          | ok found =>
            simp only [hparse] at h
            cases h
        obtain ⟨hblank, hobject⟩ := parse_eq_error.mp hparse
        exact .notEntries hblank hobject
  · intro h
    cases h with
    | directory => exact ⟨_, rfl⟩
    | @notText content hcontent =>
      cases htext : Text.Utf8.decode? content with
      | none => exact ⟨.unreadable path .notUtf8, by simp only [entries, FileSlot.read, htext]⟩
      | some text => exact absurd (Text.Utf8.decode?_eq_some_iff.mp htext) (hcontent text)
    | @notEntries text hblank hobject =>
      obtain ⟨fault, hparse⟩ := parse_eq_error.mpr ⟨hblank, hobject⟩
      refine ⟨.unparsable fault, ?_⟩
      simp only [entries, FileSlot.read, Text.Utf8.decode?_encode, hparse]
      rfl

/-- Reading says nothing against writing but where there is no place for the file. -/
theorem obstacle?_of_entries_eq_ok {entries : Dict String} (h : store.entries = .ok entries) :
    (∃ error, store.obstacle? = some error) ↔ ∃ fault, store.slot = .blocked fault := by
  obtain ⟨path, slot⟩ := store
  cases slot with
  | absent | file content =>
    constructor
    · rintro ⟨_, ⟨⟩⟩
    · rintro ⟨_, ⟨⟩⟩
  | directory => cases h
  | blocked fault => exact ⟨fun _ => ⟨fault, rfl⟩, fun _ => ⟨_, rfl⟩⟩

theorem get_eq_error (key : String) :
    (∃ error, store.get key = .error error) ↔ store.slot.Unreadable := by
  rw [← entries_eq_error, get]
  cases store.entries with
  | error error => exact ⟨fun _ => ⟨error, rfl⟩, fun _ => ⟨error, rfl⟩⟩
  | ok entries =>
    constructor
    · rintro ⟨_, ⟨⟩⟩
    · rintro ⟨_, ⟨⟩⟩

theorem set_eq_error (key value : String) :
    (∃ error, store.set key value = .error error) ↔
      store.slot.Unreadable ∨ ∃ fault, store.slot = .blocked fault := by
  rw [← entries_eq_error, set]
  cases hentries : store.entries with
  | error error => exact ⟨fun _ => .inl ⟨error, rfl⟩, fun _ => ⟨error, rfl⟩⟩
  | ok entries =>
    rw [ok_bind, ← obstacle?_of_entries_eq_ok hentries]
    cases hobstacle : store.obstacle? with
    | none =>
      rw [replace_eq hobstacle]
      constructor
      · rintro ⟨_, ⟨⟩⟩
      · rintro (⟨_, ⟨⟩⟩ | ⟨_, ⟨⟩⟩)
    | some error =>
      rw [replace_of_obstacle hobstacle]
      exact ⟨fun _ => .inr ⟨error, rfl⟩, fun _ => ⟨error, rfl⟩⟩

theorem remove_eq_error (key : String) :
    (∃ error, store.remove key = .error error) ↔ store.slot.Unreadable := by
  rw [← entries_eq_error, remove]
  cases hentries : store.entries with
  | error error => exact ⟨fun _ => ⟨error, rfl⟩, fun _ => ⟨error, rfl⟩⟩
  | ok entries =>
    rw [ok_bind]
    cases hkey : entries.get? key with
    | none =>
      constructor
      · rintro ⟨_, ⟨⟩⟩
      · rintro ⟨_, ⟨⟩⟩
    | some value =>
      rw [Option.isSome_some, if_pos rfl, replace_eq (obstacle?_of_entries hentries hkey)]
      constructor
      · rintro ⟨_, ⟨⟩⟩
      · rintro ⟨_, ⟨⟩⟩

theorem access_of_error {access : Access} {error : StorageError}
    (h : (store.access access).1 = .error error) : (store.access access).2 = store := by
  have hchanging (result : Except StorageError FileStore)
      (hresult : (Access.changing store result).1 = .error error) :
      (Access.changing store result).2 = store := by
    cases result with
    | error error => rfl
    | ok later => cases hresult
  cases access with
  | get key => rfl
  | set key value => exact hchanging _ h
  | remove key => exact hchanging _ h

theorem get_of_set {later : FileStore} {key value : String} (h : store.set key value = .ok later) :
    later.get key = .ok (some value) ∧
      ∀ other, other ≠ key → later.get other = store.get other := by
  have hset : (Store.file store).set key value = .ok (.file later) := by
    rw [Store.set, h]
    rfl
  obtain ⟨entries, hentries, -, hlater, -⟩ := Store.entries_of_set hset
  have hget (other : String) : later.get other = .ok ((entries.insert key value).get? other) := by
    have hstore := Store.get_eq other (.file later)
    rwa [hlater] at hstore
  refine ⟨?_, fun other hne => ?_⟩
  · rw [hget, Dict.get?_insert_self]
  · have hstore := Store.get_eq other (.file store)
    rw [hentries] at hstore
    rw [hget, Dict.get?_insert_of_ne hne]
    exact hstore.symm

theorem remove_of_get_eq_none {key : String} (h : store.get key = .ok none) :
    store.remove key = .ok store := by
  obtain ⟨entries, hentries, hkey⟩ := bind_eq_ok.mp h
  have hnone : entries.get? key = none := Except.ok.inj hkey
  rw [remove, hentries, ok_bind, hnone]
  rfl

/-- **A file that cannot be read is never overwritten.** For whatever stands at the path: an access
that fails leaves it as it was; reading fails exactly where it is unreadable, and there every change
fails, and a set also where there is no place for the file; after a set the entry is what was set
and every other is what it was; and removing what is not there leaves the very same file. -/
theorem access_outcome (store : FileStore) (key value : String) :
    (∀ access error, (store.access access).1 = .error error →
      (store.access access).2 = store) ∧
    ((∃ error, store.get key = .error error) ↔ store.slot.Unreadable) ∧
    ((∃ error, store.set key value = .error error) ↔
      store.slot.Unreadable ∨ ∃ fault, store.slot = .blocked fault) ∧
    ((∃ error, store.remove key = .error error) ↔ store.slot.Unreadable) ∧
    (∀ later, store.set key value = .ok later → later.get key = .ok (some value) ∧
      ∀ other, other ≠ key → later.get other = store.get other) ∧
    (store.get key = .ok none → store.remove key = .ok store) :=
  ⟨fun _ _ => access_of_error, get_eq_error key, set_eq_error key value, remove_eq_error key,
    fun _ => get_of_set, remove_of_get_eq_none⟩

end FileStore

end IdentityConsole
