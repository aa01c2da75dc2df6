import RecordBinding.CommandLine.Inspector
import RecordBinding.Proofs.Binding.Isolation
import RecordBinding.Proofs.Declaration.Evaluation
import RecordBinding.Proofs.Registrations.Loading

namespace RecordBinding

section Building

variable {u : Universe} {file : RegistrationsFile} {failure : Failure} {w : World}

theorem RegistrationEntry.Escapes.not_configuration {entry : RegistrationEntry}
    (h : entry.Escapes u w failure) : failure.kind.isConfiguration = false := by
  cases h with
  | reference _ _ hfails => exact hfails.not_configuration
  | request _ _ hkind => exact hkind

theorem RegistrationsFile.Escapes.not_configuration (h : file.Escapes u w failure) :
    failure.kind.isConfiguration = false := by
  cases h with
  | notText => rfl
  | unreadable _ _ _ hkind => exact hkind
  | tooManyDigits => rfl
  | entry _ _ hentry => exact hentry.not_configuration

end Building

end RecordBinding
