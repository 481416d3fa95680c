set_option autoImplicit false

attribute [default_instance (20000), instance (20000)] instPowNat
