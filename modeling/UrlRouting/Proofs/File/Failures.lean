import UrlRouting.Proofs.File.Scalars
import UrlRouting.Proofs.Text.Utf8

/-!
# Failures of files

A file whose notation is known fails to have a configuration in another way than files of routes do
if it holds no text, or a scalar that has no value (`RouteFile.failures_of_configuration`).
-/

namespace UrlRouting

theorem ScalarFault.isA_kind_eq_false (fault : ScalarFault) :
    fault.kind.isA .routeConfig = false := by
  cases fault with
  | codeTooLarge code => by_cases isSmall : code < 0x80000000 <;> simp only [kind, isSmall] <;> rfl
  | _ => rfl

namespace RouteFile

variable {file : RouteFile}

theorem isA_kind_failure_eq_false_iff {reading : ReadingFault} :
    (file.failure reading).kind.isA .routeConfig = false ↔
      ∃ fault, reading = .scalar fault := by
  cases reading with
  | malformed detail =>
      constructor
      · intro notFamily
        cases notFamily
      · rintro ⟨fault, ⟨⟩⟩
  | scalar fault => exact iff_of_true fault.isA_kind_eq_false ⟨fault, rfl⟩

/-- Only bytes of no text, and scalars without values, fail in another way than files of routes. -/
theorem exists_value_eq_error_iff {format : FileFormat} {bytes : List UInt8} :
    (∃ failure, file.value format bytes = .error failure ∧
        failure.kind.isA .routeConfig = false) ↔
      (∀ text, Text.encodeUtf8 text ≠ bytes) ∨
        ∃ text fault, Text.encodeUtf8 text = bytes ∧
          format.read (Text.normalizeLineEnds text.toList) = .error (.scalar fault) := by
  unfold value
  cases decoded : Text.decodeUtf8 bytes with
  | error fault =>
      refine iff_of_true ⟨_, rfl, rfl⟩ (.inl fun text encoded => ?_)
      rw [Text.decodeUtf8_eq_ok_iff.mpr encoded] at decoded
      cases decoded
  | ok text =>
      have encoded := Text.decodeUtf8_eq_ok_iff.mp decoded
      dsimp only
      constructor
      · rintro ⟨failure, failed, notFamily⟩
        cases answer : format.read (Text.normalizeLineEnds text.toList) with
        | ok value =>
            rw [answer] at failed
            cases failed
        | error reading =>
            rw [answer] at failed
            cases failed
            obtain ⟨fault, rfl⟩ := isA_kind_failure_eq_false_iff.mp notFamily
            exact .inr ⟨text, fault, encoded, answer⟩
      · rintro (noText | ⟨other, fault, sameBytes, answer⟩)
        · exact absurd encoded (noText text)
        · obtain rfl : text = other :=
            Except.ok.inj (decoded.symm.trans (Text.decodeUtf8_eq_ok_iff.mpr sameBytes))
          exact ⟨_, by rw [answer]; rfl, isA_kind_failure_eq_false_iff.mpr ⟨fault, rfl⟩⟩

theorem kind_ne_of_value_eq_error {format : FileFormat} {bytes : List UInt8} {failure : Failure}
    (failed : file.value format bytes = .error failure) :
    failure.kind ≠ .routeFileNotFound := by
  unfold value at failed
  cases decoded : Text.decodeUtf8 bytes with
  | error fault =>
      rw [decoded] at failed
      cases failed
      nofun
  | ok text =>
      rw [decoded] at failed
      dsimp only at failed
      cases answer : format.read (Text.normalizeLineEnds text.toList) with
      | ok value =>
          rw [answer] at failed
          cases failed
      | error reading =>
          rw [answer] at failed
          cases failed
          cases reading with
          | malformed detail => nofun
          | scalar fault =>
              intro isMissing
              have notFamily := fault.isA_kind_eq_false
              rw [show fault.kind = .routeFileNotFound from isMissing] at notFamily
              cases notFamily

theorem isModule_eq_false_of_format? {path : FilePath} {format : FileFormat}
    (isFormat : path.format? = some format) : path.isModule = false := by
  obtain ⟨name, isLast, isFormat⟩ := Option.bind_eq_some_iff.mp isFormat
  rw [FilePath.isModule, isLast, Option.any_some]
  cases isSuffix : FilePath.lowerCase (FilePath.suffixOf name.toList) == ".py".toList with
  | false => rfl
  | true =>
      rw [FilePath.formatOf?, eq_of_beq isSuffix] at isFormat
      cases isFormat

theorem contentValue_of_format? {format : FileFormat}
    (isFormat : (FilePath.ofText file.path).format? = some format) (executed : ModuleOutcome)
    (bytes : List UInt8) : file.contentValue executed bytes = file.value format bytes := by
  rw [contentValue, isModule_eq_false_of_format? isFormat, if_neg Bool.false_ne_true, isFormat]

theorem configuration_eq_error {format : FileFormat} {bytes : List UInt8} {failure : Failure}
    (isThere : file.content = some bytes)
    (isFormat : (FilePath.ofText file.path).format? = some format) (executed : ModuleOutcome)
    (failed : file.value format bytes = .error failure) :
    file.configuration executed = .error failure := by
  rw [configuration, isThere]
  dsimp only
  rw [contentValue_of_format? isFormat, failed]

/-- The value of a file fails in a way of files of routes, or as the notation of the file does. -/
theorem cases_of_contentValue_eq_error {executed : ModuleOutcome} {bytes : List UInt8}
    {failure : Failure} (failed : file.contentValue executed bytes = .error failure) :
    (∃ fault, failure = .file fault) ∨
      ∃ format, (FilePath.ofText file.path).format? = some format ∧
        file.value format bytes = .error failure := by
  unfold contentValue at failed
  dsimp only at failed
  split at failed
  · cases executed with
    | defined routes => cases failed
    | _ =>
        cases failed
        exact .inl ⟨_, rfl⟩
  · split at failed
    · cases failed
      exact .inl ⟨_, rfl⟩
    · next format isFormat => exact .inr ⟨format, isFormat, failed⟩

/-- There is no file, or its notation or what is in it is not the right one, or its value fails. -/
theorem cases_of_configuration_eq_error {executed : ModuleOutcome} {failure : Failure}
    (failed : file.configuration executed = .error failure) :
    (file.content = none ∧ failure = .fileNotFound file.path) ∨ (∃ fault, failure = .file fault) ∨
      ∃ bytes format, file.content = some bytes ∧
        (FilePath.ofText file.path).format? = some format ∧
        file.value format bytes = .error failure := by
  unfold configuration at failed
  split at failed
  · next isMissing =>
      cases failed
      exact .inl ⟨isMissing, rfl⟩
  · next bytes isThere =>
      split at failed
      · next valueFailed =>
          cases failed
          refine .inr ((cases_of_contentValue_eq_error valueFailed).imp_right ?_)
          rintro ⟨format, isFormat, failed⟩
          exact ⟨bytes, format, isThere, isFormat, failed⟩
      · cases failed
      · cases failed
        exact .inr (.inl ⟨_, rfl⟩)

/-- A file is told to be missing if it is.  One that is there has a configuration, or fails as files
of routes do, unless it holds no text, or a scalar that has no value; in the notations but the last
the only such scalars are integers with too many digits. -/
theorem failures_of_configuration (file : RouteFile) (executed : ModuleOutcome) :
    (file.content = none ↔ ∃ failure,
        file.configuration executed = .error failure ∧ failure.kind = .routeFileNotFound) ∧
      ((∃ failure, file.configuration executed = .error failure ∧
          failure.kind.isA .routeConfig = false) ↔
        ∃ bytes format, file.content = some bytes ∧
          (FilePath.ofText file.path).format? = some format ∧
          ((∀ text, Text.encodeUtf8 text ≠ bytes) ∨
            ∃ text fault, Text.encodeUtf8 text = bytes ∧
              format.read (Text.normalizeLineEnds text.toList) = .error (.scalar fault) ∧
              (format = .yaml ∨ fault.IsTooLong))) := by
  refine ⟨⟨fun isMissing => ?_, ?_⟩, ?_, ?_⟩
  · exact ⟨.fileNotFound file.path, by rw [configuration, isMissing], rfl⟩
  · rintro ⟨failure, failed, isNotFound⟩
    obtain ⟨isMissing, -⟩ | ⟨fault, rfl⟩ | ⟨bytes, format, -, -, valueFailed⟩ :=
      cases_of_configuration_eq_error failed
    · exact isMissing
    · cases isNotFound
    · exact absurd isNotFound (kind_ne_of_value_eq_error valueFailed)
  · rintro ⟨failure, failed, notFamily⟩
    obtain ⟨-, rfl⟩ | ⟨fault, rfl⟩ | ⟨bytes, format, isThere, isFormat, valueFailed⟩ :=
      cases_of_configuration_eq_error failed
    · cases notFamily
    · cases notFamily
    · refine ⟨bytes, format, isThere, isFormat, ?_⟩
      obtain noText | ⟨text, fault, encoded, answer⟩ :=
        exists_value_eq_error_iff.mp ⟨failure, valueFailed, notFamily⟩
      · exact .inl noText
      · refine .inr ⟨text, fault, encoded, answer, or_iff_not_imp_left.mpr fun notYaml => ?_⟩
        exact failsWith_read_of_ne_yaml notYaml _ _ answer
  · rintro ⟨bytes, format, isThere, isFormat, noValue⟩
    obtain ⟨failure, failed, notFamily⟩ :=
      exists_value_eq_error_iff.mpr (noValue.imp_right fun ⟨text, fault, encoded, answer, _⟩ =>
        ⟨text, fault, encoded, answer⟩)
    exact ⟨failure, configuration_eq_error isThere isFormat executed failed, notFamily⟩

/-- A single byte that starts no character is told as such, and not as a fault in a file of
routes. -/
theorem configuration_of_lone_byte :
    RouteFile.configuration ⟨"r.json", some [0xff]⟩ = .error (.undecodable ⟨.start, 0, [0xff]⟩) ∧
      (Failure.undecodable ⟨.start, 0, [0xff]⟩).kind.isA .routeConfig = false := by
  have decoded : Text.decodeUtf8 [0xff] = .error ⟨.start, 0, [0xff]⟩ := by
    rw [Text.decodeUtf8, Text.decodeFrom]
    rfl
  have isFormat : (FilePath.ofText "r.json").format? = some .json := by decide +kernel
  refine ⟨configuration_eq_error rfl isFormat .notImported ?_, rfl⟩
  rw [value, decoded]

end RouteFile

end UrlRouting
