import Mathlib.Data.List.DropRight
import Terracotta.Text
import Terracotta.UnixPath
/-!
# Where the Helper is in the package (`HelperPackageResolver.cs`, `RuntimePlatformResolver.cs`)

Without a package asset service the plugin looks for the Helper beside its own assembly, two directories up.  The paths
are put together as `System.IO.Path` does on Unix; the identifier of the platform comes from a small table, and
`HelperPackageResolver` takes any other text for one as well.
-/
namespace Terracotta

open UnixPath (names IsName render up isAbsolute combine fullPath fullPathIn)

/-- `System.Runtime.InteropServices.Architecture`. -/
inductive Architecture
  | x86 | x64 | arm | arm64 | wasm | s390x | loongArch64 | armv6 | ppc64le | riscV64
deriving DecidableEq

def Architecture.name : Architecture → String
  | .x86 => "X86"
  | .x64 => "X64"
  | .arm => "Arm"
  | .arm64 => "Arm64"
  | .wasm => "Wasm"
  | .s390x => "S390x"
  | .loongArch64 => "LoongArch64"
  | .armv6 => "Armv6"
  | .ppc64le => "Ppc64le"
  | .riscV64 => "RiscV64"

namespace RuntimePlatformResolver

/-- With the message of a `PlatformNotSupportedException`. -/
def resolve (windows linux macos : Bool) (architecture : Architecture) : Except String (List Char) := do
  let operatingSystem ←
    if windows then .ok "win" else if linux then .ok "linux" else if macos then .ok "osx"
    else .error "Terracotta supports Windows, Linux, and macOS only."
  let machine ← match architecture with
    | .x64 => .ok "x64"
    | .arm64 => .ok "arm64"
    | _ => .error ("Terracotta does not support " ++ architecture.name ++ ".")
  return operatingSystem.toList ++ '-' :: machine.toList

def helperFileName (rid : List Char) : List Char :=
  if "win-".toList <+: rid then "terracotta-helper.exe".toList else "terracotta-helper".toList

end RuntimePlatformResolver

open RuntimePlatformResolver (helperFileName)

inductive PackagePathExn
  -- `ArgumentException.ThrowIfNullOrWhiteSpace`
  | blank (parameter : String)
  -- of `Path.GetFullPath`
  | nullCharacter
  | argument (message parameter : String)
  | invalidOperation (message : String)
deriving DecidableEq

namespace HelperPackageResolver

def blank (text : List Char) : Bool := text.all Text.isWhitespace

def runtimes : List Char := "runtimes".toList

def native : List Char := "native".toList

/-- The text of `GetRelativePath`. -/
def relativePath (rid : List Char) : List Char :=
  runtimes ++ '/' :: (rid ++ '/' :: (native ++ '/' :: helperFileName rid))

def getRelativePath (rid : List Char) : Except PackagePathExn (List Char) :=
  if blank rid then .error (.blank "rid") else .ok (relativePath rid)

/-- `Path.GetDirectoryName` of a full path. -/
def directoryName (path : List Char) : Option (List Char) :=
  if path = ['/'] then none
  else
    let above := (path.reverse.dropWhile (fun c => c ≠ '/')).tail.reverse
    some (if above = [] then ['/'] else above)

def packageRoot (workingDirectory entryAssemblyPath : List Char) : Option (List Char) :=
  (directoryName (fullPathIn workingDirectory entryAssemblyPath)).map fun assemblyDirectory =>
    fullPath (combine (combine assemblyDirectory up) up)

def helperPath (packageRoot rid : List Char) : List Char :=
  combine (combine (combine (combine packageRoot runtimes) rid) native) (helperFileName rid)

def expectedRoot (packageRoot : List Char) : List Char := packageRoot.rdropWhile (fun c => c = '/') ++ ['/']

def resolve (workingDirectory entryAssemblyPath rid : List Char) : Except PackagePathExn (List Char) :=
  if blank entryAssemblyPath then .error (.blank "entryAssemblyPath")
  else if blank rid then .error (.blank "rid")
  else if Char.ofNat 0 ∈ entryAssemblyPath then .error .nullCharacter
  else match packageRoot workingDirectory entryAssemblyPath with
    | none => .error (.argument "Entry assembly has no parent directory." "entryAssemblyPath")
    | some root =>
      if Char.ofNat 0 ∈ rid then .error .nullCharacter
      else if expectedRoot root <+: fullPath (helperPath root rid) then .ok (fullPath (helperPath root rid))
      else .error (.invalidOperation "Resolved Helper path escaped the plugin package.")

/-! ## Full texts -/

theorem runtimes_isName : IsName runtimes ∧ runtimes ≠ up ∧ isAbsolute runtimes = false := by decide

theorem native_isName : IsName native ∧ native ≠ up ∧ isAbsolute native = false := by decide

theorem up_isName : IsName up ∧ isAbsolute up = false := by decide

theorem helperFileName_isName (rid : List Char) :
    IsName (helperFileName rid) ∧ helperFileName rid ≠ up ∧ isAbsolute (helperFileName rid) = false := by
  unfold helperFileName
  split <;> decide

/-- The last character is the second path's. -/
theorem getLast?_combine (a : List Char) {b : List Char} (hb : b ≠ []) : (combine a b).getLast? = b.getLast? := by
  unfold combine
  split
  · rfl
  split
  · exact List.getLast?_append_of_ne_nil a hb
  · rw [List.getLast?_append_of_ne_nil a (List.cons_ne_nil _ _)]
    obtain ⟨c, b', rfl⟩ := List.exists_cons_of_ne_nil hb
    rfl

theorem getLast?_of_isName {n : List Char} (h : IsName n) : n.getLast? ≠ some '/' :=
  fun hlast => h.whole (List.mem_of_getLast? hlast)

theorem fullPath_of_last {path : List Char} (h : path.getLast? ≠ some '/') :
    fullPath path = if UnixPath.resolve (names path) = [] then ['/'] else render (UnixPath.resolve (names path)) := by
  unfold fullPath
  simp only
  rw [if_neg h, List.append_nil]

theorem getLast?_render {ns : List (List Char)} (h : ∀ n ∈ ns, IsName n) : (render ns).getLast? ≠ some '/' := by
  induction ns using List.reverseRecOn with
  | nil => simp
  | append_singleton ns n ih =>
    have hn := h n (by simp)
    obtain ⟨c, n', rfl⟩ := List.exists_cons_of_ne_nil hn.nonempty
    rw [UnixPath.render_append, List.getLast?_append_of_ne_nil _ (by simp)]
    have hlast := getLast?_of_isName hn
    simpa using hlast

/-- **The root of a package, as names.** -/
theorem packageRoot_eq {workingDirectory path root : List Char} (h : packageRoot workingDirectory path = some root) :
    (∀ n ∈ names root, IsName n ∧ n ≠ up) ∧ isAbsolute root = true ∧
      expectedRoot root = render (names root) ++ ['/'] := by
  obtain ⟨directory, -, rfl⟩ := Option.map_eq_some_iff.1 h
  have hlast : (combine (combine directory up) up).getLast? ≠ some '/' := by
    rw [getLast?_combine _ (by decide)]
    decide
  have hnames := UnixPath.names_fullPath (combine (combine directory up) up)
  have hisName : ∀ n ∈ UnixPath.resolve (names (combine (combine directory up) up)), IsName n ∧ n ≠ up :=
    fun n hn => ⟨UnixPath.isName_of_mem_resolve hn, (UnixPath.mem_resolve hn).2⟩
  refine ⟨fun n hn => hisName n (hnames ▸ hn), UnixPath.isAbsolute_fullPath _, ?_⟩
  rw [hnames, fullPath_of_last hlast]
  generalize UnixPath.resolve (names (combine (combine directory up) up)) = ns at hisName
  unfold expectedRoot
  split
  · rename_i hnil
    rw [hnil]
    rfl
  · have hrender := getLast?_render fun n hn => (hisName n hn).1
    rw [List.rdropWhile_eq_self_iff.2]
    intro hl hslash
    rw [List.getLast?_eq_some_getLast hl] at hrender
    exact hrender (congrArg some (of_decide_eq_true hslash))

/-- Where the Helper is looked for, as names. -/
def target (packageRoot rid : List Char) : List (List Char) :=
  UnixPath.resolve ((if isAbsolute rid then names rid else names packageRoot ++ runtimes :: names rid) ++
    [native, helperFileName rid])

theorem names_helperPath (root rid : List Char) : names (helperPath root rid) =
    (if isAbsolute rid then names rid else names root ++ runtimes :: names rid) ++ [native, helperFileName rid] := by
  obtain ⟨hruntimes, -, hruntimes'⟩ := runtimes_isName
  obtain ⟨hnative, -, hnative'⟩ := native_isName
  obtain ⟨hfile, -, hfile'⟩ := helperFileName_isName rid
  have hrid : names (combine (combine root runtimes) rid) =
      if isAbsolute rid then names rid else names root ++ runtimes :: names rid := by
    split
    · rename_i habsolute
      unfold combine
      rw [if_pos (Or.inr habsolute)]
    · rename_i hrelative
      rw [UnixPath.names_combine (by simpa using hrelative), UnixPath.names_combine hruntimes',
        UnixPath.names_of_isName hruntimes, List.append_assoc, List.singleton_append]
  unfold helperPath
  rw [UnixPath.names_combine hfile', UnixPath.names_combine hnative', hrid, UnixPath.names_of_isName hnative,
    UnixPath.names_of_isName hfile, List.append_assoc, List.singleton_append]

/-- A target ends with the Helper's own names. -/
theorem target_eq (root rid : List Char) : target root rid =
    UnixPath.resolve (if isAbsolute rid then names rid else names root ++ runtimes :: names rid) ++
      [native, helperFileName rid] := by
  unfold target
  rw [UnixPath.resolve_append]
  refine UnixPath.foldl_enter _ fun n hn => ?_
  rcases List.mem_cons.1 hn with rfl | hn
  · exact native_isName.2.1
  · rw [List.mem_singleton.1 hn]
    exact (helperFileName_isName rid).2.1

theorem fullPath_helperPath (root rid : List Char) : fullPath (helperPath root rid) = render (target root rid) := by
  obtain ⟨hfile, -, -⟩ := helperFileName_isName rid
  have hlast : (helperPath root rid).getLast? ≠ some '/' := by
    unfold helperPath
    rw [getLast?_combine _ hfile.nonempty]
    exact getLast?_of_isName hfile
  rw [fullPath_of_last hlast, names_helperPath]
  refine if_neg fun hnil => ?_
  have htarget : target root rid = [] := hnil
  rw [target_eq] at htarget
  simp at htarget

theorem target_isName {root rid n : List Char} (h : n ∈ target root rid) : IsName n ∧ n ≠ up := by
  unfold target at h
  rw [← names_helperPath] at h
  exact ⟨UnixPath.isName_of_mem_resolve h, (UnixPath.mem_resolve h).2⟩

/-! ## In the package -/

/-- **The Helper is in the package, or there is none**: the resolver returns the file below the root that the names lead
to, with every detour resolved, and it refuses exactly what leads elsewhere. -/
theorem resolve_eq_ok_iff (workingDirectory path rid helper : List Char) :
    resolve workingDirectory path rid = .ok helper ↔
      ∃ root, packageRoot workingDirectory path = some root ∧ blank path = false ∧ blank rid = false ∧
        Char.ofNat 0 ∉ path ∧ Char.ofNat 0 ∉ rid ∧ helper = render (target root rid) ∧
        ∃ n rest, target root rid = names root ++ n :: rest := by
  have hbelow : ∀ {root}, packageRoot workingDirectory path = some root →
      (expectedRoot root <+: fullPath (helperPath root rid) ↔ ∃ n rest, target root rid = names root ++ n :: rest) := by
    intro root hroot
    obtain ⟨hnames, -, hexpected⟩ := packageRoot_eq hroot
    rw [hexpected, fullPath_helperPath]
    exact UnixPath.starts_below_iff (fun n hn => (hnames n hn).1) fun n hn => (target_isName hn).1
  unfold resolve
  constructor
  · intro h
    split at h
    · cases h
    rename_i hpath
    split at h
    · cases h
    rename_i hrid
    split at h
    · cases h
    rename_i hnul
    split at h
    · cases h
    rename_i root hroot
    split at h
    · cases h
    rename_i hnul'
    split at h
    · rename_i hstarts
      cases h
      exact ⟨root, hroot, by simpa using hpath, by simpa using hrid, hnul, hnul', fullPath_helperPath root rid,
        (hbelow hroot).1 hstarts⟩
    · cases h
  · rintro ⟨root, hroot, hpath, hrid, hnul, hnul', rfl, hstarts⟩
    rw [if_neg (by simp [hpath]), if_neg (by simp [hrid]), if_neg hnul, hroot]
    simp only
    rw [if_neg hnul', if_pos ((hbelow hroot).2 hstarts), fullPath_helperPath]

/-! ## The packages there are -/

/-- **The identifiers of the platforms are plain names**, and only those of Windows name the other file. -/
theorem platform_isName {windows linux macos : Bool} {architecture : Architecture} {rid : List Char}
    (h : RuntimePlatformResolver.resolve windows linux macos architecture = .ok rid) :
    IsName rid ∧ rid ≠ up ∧ isAbsolute rid = false ∧ blank rid = false ∧ Char.ofNat 0 ∉ rid ∧
      helperFileName rid = (if windows then "terracotta-helper.exe" else "terracotta-helper").toList := by
  cases windows <;> cases linux <;> cases macos <;> cases architecture <;> cases h <;> decide

theorem directoryName_render {ns : List (List Char)} {n : List Char} (hn : IsName n) :
    directoryName (render (ns ++ [n])) = some (if render ns = [] then ['/'] else render ns) := by
  obtain ⟨c, n', rfl⟩ := List.exists_cons_of_ne_nil hn.nonempty
  have htext : render (ns ++ [c :: n']) = render ns ++ '/' :: c :: n' := by simp
  have hlong : render (ns ++ [c :: n']) ≠ ['/'] := by
    intro heq
    have hlen := congrArg List.length (htext ▸ heq)
    simp only [List.length_append, List.length_cons, List.length_nil] at hlen
    omega
  have habove : ((render (ns ++ [c :: n'])).reverse.dropWhile (fun d => d ≠ '/')).tail.reverse = render ns := by
    have hsplit : (render (ns ++ [c :: n'])).reverse = (c :: n').reverse ++ '/' :: (render ns).reverse := by
      rw [htext, List.reverse_append, List.reverse_cons, List.append_assoc, List.singleton_append]
    rw [hsplit, List.dropWhile_append_of_pos, List.dropWhile_cons_of_neg (by simp), List.tail_cons, List.reverse_reverse]
    intro d hd
    have hd' : d ≠ '/' := fun hslash => hn.whole (hslash ▸ List.mem_reverse.1 hd)
    simpa using hd'
  unfold directoryName
  rw [if_neg hlong, habove]

theorem fullPath_render {ns : List (List Char)} (hne : ns ≠ []) (h : ∀ n ∈ ns, IsName n ∧ n ≠ up) :
    fullPath (render ns) = render ns := by
  have hnames := UnixPath.names_render fun n hn => (h n hn).1
  have hstay : UnixPath.resolve ns = ns := UnixPath.foldl_enter [] fun n hn => (h n hn).2
  rw [fullPath_of_last (getLast?_render fun n hn => (h n hn).1), hnames, hstay, if_neg hne]

/-- The root of a package whose assembly is two directories down. -/
theorem packageRoot_render (workingDirectory : List Char) {ns : List (List Char)} {library framework file : List Char}
    (h : ∀ n ∈ ns ++ [library, framework, file], IsName n ∧ n ≠ up) :
    ∃ root, packageRoot workingDirectory (render (ns ++ [library, framework, file])) = some root ∧ names root = ns := by
  have habsolute : isAbsolute (render (ns ++ [library, framework, file])) = true := by cases ns <;> rfl
  have hfull : fullPathIn workingDirectory (render (ns ++ [library, framework, file])) =
      render (ns ++ [library, framework] ++ [file]) := by
    unfold fullPathIn
    rw [if_pos habsolute, fullPath_render (by simp) h]
    simp
  have hdirectory : directoryName (render (ns ++ [library, framework] ++ [file])) =
      some (render (ns ++ [library, framework])) := by
    rw [directoryName_render (h file (by simp)).1, if_neg]
    simp
  refine ⟨_, by unfold packageRoot; rw [hfull, hdirectory]; rfl, ?_⟩
  have hin : ∀ n ∈ ns ++ [library, framework], IsName n ∧ n ≠ up := fun n hn => h n (by
    rcases List.mem_append.1 hn with hn | hn
    · exact List.mem_append_left _ hn
    · exact List.mem_append_right _ (List.mem_append_left [file] hn))
  obtain ⟨hup, hup'⟩ := up_isName
  rw [UnixPath.names_fullPath, UnixPath.names_combine hup', UnixPath.names_combine hup', UnixPath.names_of_isName hup,
    UnixPath.names_render fun n hn => (hin n hn).1, UnixPath.resolve_append, UnixPath.resolve_append]
  have hstay : UnixPath.resolve (ns ++ [library, framework]) = ns ++ [library, framework] :=
    UnixPath.foldl_enter [] fun n hn => (hin n hn).2
  rw [hstay]
  simp [UnixPath.enter]

/-- **Both ways to the Helper end at one file**: on Linux and macOS, the file beside the assembly is the one whose path the
plugin would ask the package asset service for. -/
theorem helper_is_where_the_assets_have_it (workingDirectory : List Char) (ns : List (List Char))
    (library framework file rid : List Char) (linux macos : Bool) (architecture : Architecture)
    (hnames : ∀ n ∈ ns ++ [library, framework, file], IsName n ∧ n ≠ up)
    (htext : Char.ofNat 0 ∉ render (ns ++ [library, framework, file]))
    (hrid : RuntimePlatformResolver.resolve false linux macos architecture = .ok rid) :
    ∃ relative, getRelativePath rid = .ok relative ∧
      resolve workingDirectory (render (ns ++ [library, framework, file])) rid = .ok (render ns ++ '/' :: relative) := by
  obtain ⟨hisName, hnotUp, hrelative, hblank, hnul, -⟩ := platform_isName hrid
  obtain ⟨root, hroot, hrootNames⟩ := packageRoot_render workingDirectory hnames
  have hpath : blank (render (ns ++ [library, framework, file])) = false := by
    have hslash : '/' ∈ render (ns ++ [library, framework, file]) := by
      simp [UnixPath.render]
    refine List.all_eq_false.2 ⟨'/', hslash, by decide⟩
  have hplain : ∀ n ∈ ns ++ runtimes :: [rid] ++ [native, helperFileName rid], n ≠ up := by
    intro n hn
    simp only [List.mem_append, List.mem_cons, List.not_mem_nil, or_false] at hn
    rcases hn with (hn | rfl | rfl) | rfl | rfl
    · exact (hnames n (List.mem_append_left _ hn)).2
    · exact runtimes_isName.2.1
    · exact hnotUp
    · exact native_isName.2.1
    · exact (helperFileName_isName rid).2.1
  have htarget : target root rid = ns ++ runtimes :: [rid] ++ [native, helperFileName rid] := by
    unfold target
    rw [if_neg (by simp [hrelative]), hrootNames, UnixPath.names_of_isName hisName]
    exact UnixPath.foldl_enter [] hplain
  refine ⟨relativePath rid, if_neg (by simp [hblank]), ?_⟩
  rw [resolve_eq_ok_iff]
  refine ⟨root, hroot, hpath, hblank, htext, hnul, ?_, runtimes, [rid, native, helperFileName rid], ?_⟩
  · rw [htarget]
    simp [relativePath]
  · rw [htarget, hrootNames]
    simp

theorem helper_of_a_package :
    ∃ relative, getRelativePath "linux-x64".toList = .ok relative ∧
      resolve "/".toList (render (["opt".toList] ++ ["lib".toList, "net10.0".toList, "Plugin.dll".toList]))
        "linux-x64".toList = .ok (render ["opt".toList] ++ '/' :: relative) :=
  helper_is_where_the_assets_have_it _ _ _ _ _ _ true false .x64 (by decide) (by decide) rfl

end HelperPackageResolver

end Terracotta
