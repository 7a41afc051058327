import CrashTriage.Condense.CallRule

/-!
# The well known calls

The calls that condensing a thread looks for: how processes end, how failures are reported, how
threads start, how the glib main loop dispatches, and the generic part of the kernel. A rule that
restricts neither files nor libraries goes by the name alone.
-/

namespace CrashTriage

namespace Condense

/-- Calls that end the process. -/
def exitCalls : List CallRule := [
  { function := "__run_exit_handlers", files := ["exit.c"] },
  { function := "raise", files := ["pt-raise.c", "libc.so", "libc-", "libpthread.so"] },
  { function := "__GI_raise", files := ["raise.c"] },
  { function := "exit", files := ["exit.c"] },
  { function := "abort", files := ["abort.c", "libc.so", "libc-"] },
  { function := "__GI_abort", files := ["abort.c"] },
  { function := "__chk_fail", files := ["chk_fail.c", "libc.so"] },
  { function := "__stack_chk_fail", files := ["stack_chk_fail.c", "libc.so"] },
  { function := "kill", files := ["syscall-template.S"] }]

/-- Calls inside assertions, fortified functions, the allocator and the crash handler of a
virtual machine. -/
def reportingCalls : List CallRule := [
  { function := "__assert_fail" },
  { function := "__assert_fail_base" },
  { function := "__chk_fail" },
  { function := "__fortify_fail" },
  { function := "__libc_message" },
  { function := "__longjmp_chk" },
  { function := "__malloc_assert" },
  { function := "__strcat_chk" },
  { function := "__strcpy_chk" },
  { function := "__strncpy_chk" },
  { function := "__vsnprintf_chk" },
  { function := "___vsnprintf_chk" },
  { function := "__snprintf_chk" },
  { function := "___snprintf_chk" },
  { function := "__vasprintf_chk" },
  { function := "malloc_consolidate", files := ["malloc.c", "libc"] },
  { function := "malloc_printerr", files := ["malloc.c", "libc"] },
  { function := "_int_malloc", files := ["malloc.c", "libc"] },
  { function := "_int_free", files := ["malloc.c", "libc"] },
  { function := "_int_realloc", files := ["malloc.c", "libc"] },
  { function := "_int_memalign", files := ["malloc.c"] },
  { function := "__libc_free", files := ["malloc.c"] },
  { function := "__libc_malloc", files := ["malloc.c"] },
  { function := "__libc_memalign", files := ["malloc.c"] },
  { function := "__libc_realloc", files := ["malloc.c"] },
  { function := "__posix_memalign", files := ["malloc.c"] },
  { function := "__libc_calloc", files := ["malloc.c"] },
  { function := "JVM_handle_linux_signal" },
  { function := "VMError::report_and_die" },
  { function := "os::abort" }]

/-- Calls that start a process or a thread. -/
def startupCalls : List CallRule := [
  { function := "_start" },
  { function := "__libc_start_main", files := ["libc"] },
  { function := "clone", files := ["clone.S", "libc"] },
  { function := "start_thread", files := ["pthread_create.c", "libpthread"] }]

/-- Calls by which glib and its object system get from one part of a program to another. -/
def glibCalls : List CallRule := [
  { function := "g_log", files := ["gmessages.c"], libraries := ["libglib"] },
  { function := "g_logv", files := ["gmessages.c"], libraries := ["libglib"] },
  { function := "g_assertion_message", files := ["gtestutils.c"], libraries := ["libglib"] },
  { function := "g_assertion_message_expr", files := ["gtestutils.c"],
    libraries := ["libglib", "libgobject"] },
  { function := "g_closure_invoke", files := ["gclosure.c"] },
  { function := "g_free", files := ["gmem.c"], libraries := ["libglib"] },
  { function := "g_type_class_meta_marshal", files := ["gclosure.c"], libraries := ["libglib"] },
  { function := "g_signal_emit_valist", files := ["gsignal.c"], libraries := ["libgobject"] },
  { function := "signal_emit_unlocked_R", files := ["gsignal.c"], libraries := ["libgobject"] },
  { function := "g_signal_emit", files := ["gsignal.c"], libraries := ["libgobject"] },
  { function := "g_idle_dispatch", files := ["gmain.c", "gutf8.c"] },
  { function := "g_object_dispatch_properties_changed", files := ["gobject.c"],
    libraries := ["libgobject"] },
  { function := "g_object_notify_dispatcher", files := ["gobject.c"],
    libraries := ["libgobject"] },
  { function := "g_object_unref", files := ["gobject.c"], libraries := ["libgobject"] },
  { function := "g_object_run_dispose", files := ["gobject.c"], libraries := ["libgobject"] },
  { function := "g_object_new", files := ["gobject.c"], libraries := ["libgobject"] },
  { function := "g_object_newv", files := ["gobject.c"], libraries := ["libgobject"] },
  { function := "g_main_context_dispatch", files := ["gmain.c"], libraries := ["libglib"] },
  { function := "g_main_context_iterate", files := ["gmain.c"], libraries := ["libglib"] },
  { function := "g_main_dispatch", files := ["gmain.c"], libraries := ["libglib"] },
  { function := "g_main_loop_run", files := ["gmain.c"], libraries := ["libglib"] },
  { function := "g_timeout_dispatch", files := ["gmain.c"], libraries := ["libglib"] },
  { function := "g_thread_pool_thread_proxy", files := ["gthreadpool.c"],
    libraries := ["libglib"] },
  { function := "g_thread_create_proxy", files := ["gthread.c"], libraries := ["libglib"] },
  { function := "g_cclosure_marshal_VOID__BOXED", files := ["gmarshal.c"],
    libraries := ["libgobject"] },
  { function := "g_cclosure_marshal_VOID__VOID", files := ["gclosure.c", "gmarshal.c"],
    libraries := ["libgobject"] }]

/-- Functions that are generic in the core kernel. -/
def kernelCalls : List String := [
  "do_softirq", "do_vfs_ioctl", "flush_kthread_worker", "gs_change", "irq_exit",
  "kernel_thread_helper", "kthread", "process_one_work", "system_call_fastpath",
  "warn_slowpath_common", "warn_slowpath_fmt", "warn_slowpath_fmt_taint", "warn_slowpath_null",
  "worker_thread"]

/-- Whether a frame is a generic call of the core kernel. A function of a module is none, however
it is named. -/
def isGenericKernelCall (f : Frame) : Bool :=
  match f.details with
  | .oops d =>
    d.moduleName.all (· == "vmlinux") && f.symbol.name?.any (kernelCalls.contains ·)
  | _ => false

end Condense

end CrashTriage
