import RecordBinding.Proofs.Registrations.Loading

namespace RecordBinding

section Step

variable {τ : Type} {u : Universe} {request : RegistrationRequest}

end Step

section Run

variable {τ : Type} {u : Universe} {s : Registry τ × World}

end Run

end RecordBinding
