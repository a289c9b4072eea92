import DocumentFilter.Settings.Toml

/-!
# Loading settings

Settings come from a file, and without one they are the defaults.  What a run knows of files is a
function that gives the bytes of a path or the reason why there are none.  A folder is the simplest
one: files under plain names, and nothing else.
-/

namespace DocumentFilter

/-- Why a file cannot be read as text. -/
inductive ReadFault where
  /-- There is nothing under the path. -/
  | notFound
  /-- The path goes on after a file. -/
  | notADirectory
  /-- The path names a directory. -/
  | isADirectory
  /-- A part of the path has more than 255 bytes. -/
  | nameTooLong
  /-- The path has a NUL character in it. -/
  | nulInPath
  /-- The bytes are not text. -/
  | notText
  /-- Any other reason, in the words of the system. -/
  | other (message : String)
deriving DecidableEq, Repr

namespace ReadFault

/-- The reason in words. -/
def message : ReadFault → String
  | notFound => "No such file or directory (os error 2)"
  | notADirectory => "Not a directory (os error 20)"
  | isADirectory => "Is a directory (os error 21)"
  | nameTooLong => "File name too long (os error 36)"
  | nulInPath => "file name contained an unexpected NUL byte"
  | notText => "stream did not contain valid UTF-8"
  | other message => message

end ReadFault

/-- Files under plain names. -/
structure Folder where
  files : List (String × ByteArray) := []

namespace Folder

/-- The parts of a path between slashes; a slash at the end leaves an empty part. -/
def parts (path : String) : List String := (path.toList.splitOn '/').map String.ofList

/-- A part of a path that leads to a directory from everywhere. -/
def isDirectoryPart (part : String) : Bool := part = "" || part = "." || part = ".."

/-- The bytes of a file.  A path leads from the folder to one of its files; all that lies outside of
the folder are directories without files. -/
def read (folder : Folder) (path : String) : Except ReadFault ByteArray :=
  if path.isEmpty then .error .notFound
  else if path.toList.contains '\x00' then .error .nulInPath
  else if 4096 ≤ path.utf8ByteSize then .error .nameTooLong
  else if (parts path).all isDirectoryPart then .error .isADirectory
  else if (parts path).head? = some "" then .error .notFound
  else
    match (parts path).dropWhile fun part => part = "" || part = "." with
    | [] => .error .isADirectory
    | name :: more =>
      match folder.files.find? (·.1 = name) with
      | some (_, bytes) => if more.isEmpty then .ok bytes else .error .notADirectory
      | none => if 255 < name.utf8ByteSize then .error .nameTooLong else .error .notFound

end Folder

/-- Why settings cannot be loaded from a file. -/
inductive SettingsError where
  | read (path : String) (fault : ReadFault)
  | parse (path : String)
deriving DecidableEq, Repr

namespace SettingsError

/-- What is wrong; the words for a document that cannot be understood name its path alone. -/
def message : SettingsError → String
  | read path fault => "Failed to read config file '" ++ path ++ "': " ++ fault.message
  | parse path => "Failed to parse config file '" ++ path ++ "'"

/-- What is wrong, with its cause. -/
def chain (error : SettingsError) : String :=
  match error with
  | read _ fault => error.message ++ ": " ++ fault.message
  | parse _ => error.message

end SettingsError

namespace Settings

/-- The settings of a file. -/
def ofFile (read : String → Except ReadFault ByteArray) (path : String) :
    Except SettingsError Settings :=
  match read path with
  | .error fault => .error (.read path fault)
  | .ok bytes =>
    match String.fromUTF8? bytes with
    | none => .error (.read path .notText)
    | some text =>
      match ofToml? text with
      | none => .error (.parse path)
      | some settings => .ok settings

/-- The settings of a file if there is one, and the defaults otherwise. -/
def load (read : String → Except ReadFault ByteArray) (path? : Option String) :
    Except SettingsError Settings :=
  match path? with
  | none => .ok {}
  | some path => ofFile read path

section Load

variable {read : String → Except ReadFault ByteArray} {path? : Option String} {path text : String}
  {bytes : ByteArray}

theorem ofFile_of_error {fault : ReadFault} (hread : read path = .error fault) :
    ofFile read path = .error (.read path fault) := by
  rw [ofFile, hread]

theorem ofFile_of_notText (hread : read path = .ok bytes)
    (htext : String.fromUTF8? bytes = none) : ofFile read path = .error (.read path .notText) := by
  simp only [ofFile, hread, htext]

theorem ofFile_of_text (hread : read path = .ok bytes)
    (htext : String.fromUTF8? bytes = some text) :
    ofFile read path = (ofToml? text).elim (.error (.parse path)) .ok := by
  simp only [ofFile, hread, htext]
  cases ofToml? text <;> rfl

/-- The settings that a run has: the defaults without a file, and otherwise what the text of the
file says. -/
inductive IsLoaded (read : String → Except ReadFault ByteArray) : Option String → Settings → Prop
  | defaults : IsLoaded read none ⟨"base", 32, ⟨none, none, none, "_id", none⟩⟩
  | file {path text : String} {bytes : ByteArray} {entries : Toml.Entries} {settings : Settings} :
      read path = .ok bytes → String.fromUTF8? bytes = some text →
      Toml.document? text = some entries → settings.IsHeldBy entries →
      IsLoaded read (some path) settings

/-- The reason in words for which a run has no settings: the file cannot be read, is no text, or
does not hold settings. -/
inductive IsRefused (read : String → Except ReadFault ByteArray) : Option String → String → Prop
  | unreadable {path : String} {fault : ReadFault} :
      read path = .error fault →
      IsRefused read (some path)
        ("Failed to read config file '" ++ path ++ "': " ++ fault.message ++ ": " ++ fault.message)
  | notText {path : String} {bytes : ByteArray} :
      read path = .ok bytes → String.fromUTF8? bytes = none →
      IsRefused read (some path)
        ("Failed to read config file '" ++ path ++ "': " ++ "stream did not contain valid UTF-8" ++
          ": " ++ "stream did not contain valid UTF-8")
  | unparsable {path text : String} {bytes : ByteArray} :
      read path = .ok bytes → String.fromUTF8? bytes = some text →
      (∀ entries settings, Toml.document? text = some entries → ¬IsHeldBy settings entries) →
      IsRefused read (some path) ("Failed to parse config file '" ++ path ++ "'")

theorem load_cases (read : String → Except ReadFault ByteArray) (path? : Option String) :
    (∃ settings, load read path? = .ok settings ∧ IsLoaded read path? settings) ∨
      ∃ fault, load read path? = .error fault ∧ IsRefused read path? fault.chain := by
  cases path? with
  | none => exact .inl ⟨_, rfl, .defaults⟩
  | some path =>
      cases hread : read path with
      | error fault => exact .inr ⟨_, ofFile_of_error hread, .unreadable hread⟩
      | ok bytes =>
          cases htext : String.fromUTF8? bytes with
          | none => exact .inr ⟨_, ofFile_of_notText hread htext, .notText hread htext⟩
          | some text =>
              have hfile := ofFile_of_text hread htext
              cases hfound : ofToml? text with
              | some settings =>
                  obtain ⟨entries, hentries, hheld⟩ := ofToml?_eq_some_iff.mp hfound
                  rw [hfound] at hfile
                  exact .inl ⟨settings, hfile, .file hread htext hentries hheld⟩
              | none =>
                  rw [hfound] at hfile
                  refine .inr ⟨_, hfile, .unparsable hread htext ?_⟩
                  intro entries settings hentries hheld
                  rw [ofToml?_eq_some_iff.mpr ⟨entries, hentries, hheld⟩] at hfound
                  cases hfound

theorem load_eq_ok_iff {settings : Settings} :
    load read path? = .ok settings ↔ IsLoaded read path? settings := by
  constructor
  · intro h
    obtain ⟨found, hfound, hloaded⟩ | ⟨fault, hfault, _⟩ := load_cases read path?
    · cases h.symm.trans hfound
      exact hloaded
    · cases h.symm.trans hfault
  · intro h
    cases h with
    | defaults => rfl
    | file hread htext hentries hheld =>
        rw [load, ofFile_of_text hread htext, ofToml?_eq_some_iff.mpr ⟨_, hentries, hheld⟩]
        rfl

theorem load_eq_error_iff {reason : String} :
    (∃ fault, load read path? = .error fault ∧ fault.chain = reason) ↔
      IsRefused read path? reason := by
  constructor
  · rintro ⟨fault, h, rfl⟩
    obtain ⟨found, hfound, _⟩ | ⟨other, hother, hrefused⟩ := load_cases read path?
    · cases h.symm.trans hfound
    · cases h.symm.trans hother
      exact hrefused
  · intro h
    cases h with
    | @unreadable path fault hread => exact ⟨.read path fault, ofFile_of_error hread, rfl⟩
    | @notText path bytes hread htext =>
        exact ⟨.read path .notText, ofFile_of_notText hread htext, rfl⟩
    | @unparsable path text bytes hread htext hnone =>
        have hfound : ofToml? text = none := by
          refine Option.eq_none_iff_forall_not_mem.mpr fun settings hsettings => ?_
          obtain ⟨entries, hentries, hheld⟩ := ofToml?_eq_some_iff.mp hsettings
          exact hnone entries settings hentries hheld
        refine ⟨.parse path, ?_, rfl⟩
        rw [load, ofFile_of_text hread htext, hfound]
        rfl

theorem IsLoaded.eq {settings other : Settings} (h : IsLoaded read path? settings)
    (hother : IsLoaded read path? other) : settings = other := by
  have hload := load_eq_ok_iff.mpr h
  rw [load_eq_ok_iff.mpr hother] at hload
  exact (Except.ok.inj hload).symm

theorem IsLoaded.not_isRefused {settings : Settings} {reason : String}
    (h : IsLoaded read path? settings) : ¬IsRefused read path? reason := by
  intro hrefused
  obtain ⟨fault, hfault, _⟩ := load_eq_error_iff.mpr hrefused
  cases (load_eq_ok_iff.mpr h).symm.trans hfault

end Load

end Settings
end DocumentFilter
